import LogOperator.Config.Dialect

/-!
# LogOperator.Command.Arguments

The command line: the commands, their options, and what a list of arguments asks for.

An option is a name behind two dashes or a letter behind one; its value is joined to it, by an equals
sign after a name, or is the next argument.  After two dashes alone no argument is an option.  A value
is checked when the next thing has been read, so of two faults the one that shows first in this order
counts.

* `Command.ofArguments`: the command that a list of arguments asks for.
-/

namespace LogOperator

/-- What the program is asked to do. -/
inductive Command where
  /-- Operate the pipeline of a name in a namespace until stopped. -/
  | run (name ns : String) (config : Option String)
  /-- Check the manifest in a file. -/
  | validate (file : String)
  /-- Show the configuration that the manifest in a file compiles to. -/
  | render (file : String) (dialect : Option Dialect)
  /-- Show the definition of the kind of pipelines. -/
  | definition
deriving DecidableEq, Inhabited

/-- Why arguments ask for no command.  Help and the version are asked for in this way too. -/
inductive ArgumentError where
  | help
  | version
  /-- There are no arguments. -/
  | nothing
  | unknownCommand
  | unknownArgument
  /-- A value is missing or refused. -/
  | badValue
  /-- An option that takes no value has one. -/
  | needlessValue
  /-- An option is given twice. -/
  | repeated
  /-- The file is missing. -/
  | fileMissing
deriving DecidableEq, Inhabited

namespace Command

/-! ## Options -/

/-- What a command takes a value for. -/
inductive Slot where
  | name
  | ns
  | config
  | dialect
  | file
deriving DecidableEq

/-- The value may stand in the slot. -/
def Slot.accepts (s : Slot) (value : String) : Bool :=
  match s with
  | name | ns => true
  | config | file => !value.isEmpty
  | dialect => (Dialect.ofName? value).isSome

/-- An option. -/
structure Flag where
  slot : Slot
  letter : Char
  word : String

/-- What a command takes. -/
structure Grammar where
  flags : List Flag
  takesFile : Bool

/-- The commands by name, with what they take. -/
def grammars : List (String × Grammar) :=
  [("run", ⟨[⟨.name, 'n', "name"⟩, ⟨.ns, 'N', "namespace"⟩, ⟨.config, 'c', "config"⟩], false⟩),
   ("validate", ⟨[], true⟩),
   ("render", ⟨[⟨.dialect, 'd', "dialect"⟩], true⟩),
   ("crd", ⟨[], false⟩)]

/-! ## One command's arguments -/

/-- Arguments that are partly read. -/
structure Reading where
  values : List (Slot × String)
  /-- The slot that was named last, with its value if that has been read; neither is checked yet. -/
  pending : Option (Slot × Option String)
  /-- The file has been read. -/
  hasFile : Bool
  /-- Two dashes have been read: no argument is an option any more. -/
  onlyValues : Bool

namespace Reading

def start : Reading := ⟨[], none, false, false⟩

def fill (r : Reading) (slot : Slot) (value : String) : Except ArgumentError Reading :=
  if (r.values.lookup slot).isSome then .error .repeated
  else if slot.accepts value then .ok { r with values := (slot, value) :: r.values }
  else .error .badValue

/-- Checks what is pending. -/
def settle (r : Reading) : Except ArgumentError Reading :=
  match r.pending with
  | none => .ok r
  | some (_, none) => .error .badValue
  | some (slot, some value) => { r with pending := none }.fill slot value

/-- An option that was named, with the value that was joined to it. -/
def option (r : Reading) (slot : Slot) (joined : Option String) : Except ArgumentError Reading := do
  let r ← r.settle
  match joined with
  | some value => r.fill slot value
  | none => return { r with pending := some (slot, none) }

/-- A name behind two dashes. -/
def word (g : Grammar) (r : Reading) (w : String) (joined : Option String) :
    Except ArgumentError Reading :=
  if w = "help" then
    if joined.isSome then .error .needlessValue
    else do
      let _ ← r.settle
      throw .help
  else
    match g.flags.find? (·.word == w) with
    | some f => r.option f.slot joined
    | none => .error .unknownArgument

/-- The value that is joined to a letter. -/
def joinedValue : List Char → Option String
  | [] => none
  | '=' :: cs => some (String.ofList cs)
  | cs => some (String.ofList cs)

/-- A letter behind one dash, and what is joined to it. -/
def letter (g : Grammar) (r : Reading) (c : Char) (rest : List Char) :
    Except ArgumentError Reading :=
  if c = 'h' then do
    let _ ← r.settle
    throw .help
  else
    match g.flags.find? (·.letter == c) with
    | some f => r.option f.slot (joinedValue rest)
    | none => .error .unknownArgument

/-- An argument that is no option and no option's value. -/
def value (g : Grammar) (r : Reading) (a : String) : Except ArgumentError Reading :=
  if g.takesFile && !r.hasFile then do
    let r ← r.settle
    return { r with pending := some (.file, some a), hasFile := true }
  else .error .unknownArgument

/-- A name and what an equals sign joins to it. -/
def splitWord (cs : List Char) : String × Option String :=
  match cs.span (· != '=') with
  | (w, _ :: v) => (String.ofList w, some (String.ofList v))
  | (w, []) => (String.ofList w, none)

def argument (g : Grammar) (r : Reading) (a : String) : Except ArgumentError Reading :=
  if r.onlyValues then r.value g a
  else
    match a.toList with
    | ['-', '-'] => .ok { r with onlyValues := true }
    | '-' :: '-' :: cs =>
      let (w, joined) := splitWord cs
      r.word g w joined
    | '-' :: c :: cs => r.letter g c cs
    | _ =>
      match r.pending with
      | some (slot, none) => .ok { r with pending := some (slot, some a) }
      | _ => r.value g a

def arguments (g : Grammar) (r : Reading) : List String → Except ArgumentError Reading
  | [] => do
    let r ← r.settle
    if g.takesFile && !r.hasFile then throw .fileMissing else return r
  | a :: rest => do
    let r ← r.argument g a
    r.arguments g rest

def get? (r : Reading) (slot : Slot) : Option String :=
  r.values.lookup slot

/-- The command of a name with the values that were read. -/
def command (name : String) (r : Reading) : Command :=
  match name with
  | "run" => .run ((r.get? .name).getD "logpipe") ((r.get? .ns).getD "logging") (r.get? .config)
  | "validate" => .validate ((r.get? .file).getD "")
  | "render" => .render ((r.get? .file).getD "") ((r.get? .dialect).bind Dialect.ofName?)
  | _ => .definition

end Reading

/-! ## The command line -/

/-- The name of a command, help included. -/
def isName (a : String) : Bool :=
  a == "help" || (grammars.lookup a).isSome

/-- Help asked for by a command of its own, which may name one other command. -/
def helpOn : List String → ArgumentError
  | [] => .help
  | [a] => if isName a then .help else .unknownCommand
  | _ => .unknownCommand

/-- What an argument means that stands where a command is expected. -/
def misplaced (a : String) (rest : List String) : ArgumentError :=
  match a.toList with
  | ['-', '-'] =>
    match rest with
    | [] => .nothing
    | b :: _ => if isName b then .unknownArgument else .unknownCommand
  | '-' :: '-' :: cs =>
    let (w, joined) := Reading.splitWord cs
    if w = "help" || w = "version" then
      if joined.isSome then .needlessValue else if w = "help" then .help else .version
    else .unknownArgument
  | '-' :: c :: _ => if c = 'h' then .help else if c = 'V' then .version else .unknownArgument
  | _ => .unknownCommand

/-- The command that a list of arguments asks for. -/
def ofArguments : List String → Except ArgumentError Command
  | [] => .error .nothing
  | a :: rest =>
    if a = "help" then .error (helpOn rest)
    else
      match grammars.lookup a with
      | some g => (Reading.start.arguments g rest).map (Reading.command a)
      | none => .error (misplaced a rest)

end Command

end LogOperator
