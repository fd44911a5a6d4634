import LogOperator.Toml.Quoted
import LogOperator.Toml.Scalar

/-!
# LogOperator.Toml.Reader

The TOML document that a text stands for: headers of tables, and members of the table of the last
header, each on a line of its own.  Lists and tables in braces may span lines.

* `Members.ofText?`: the members of the document's root.
-/

namespace LogOperator.Toml

/-! ## Space -/

def isBlank (c : Char) : Bool :=
  c == ' ' || c == '\t'

def skipBlanks (cs : List Char) : List Char :=
  cs.dropWhile isBlank

/-- What follows a line end. -/
def afterLineEnd? : List Char → Option (List Char)
  | '\n' :: cs => some cs
  | '\r' :: '\n' :: cs => some cs
  | _ => none

/-- What follows a comment, if one starts here. -/
def skipComment? : List Char → Option (List Char)
  | '#' :: cs =>
    let (text, rest) := cs.span fun c => c != '\n' && c != '\r'
    if text.any isForbidden then none else some rest
  | cs => some cs

/-- What follows the rest of a line that holds no more than blanks and a comment. -/
def restOfLine? (cs : List Char) : Option (List Char) := do
  match ← skipComment? (skipBlanks cs) with
  | [] => return []
  | cs => afterLineEnd? cs

/-- What follows blanks, comments and line ends.  The number bounds the lines. -/
def skipLines? : Nat → List Char → Option (List Char)
  | 0, cs => some cs
  | n + 1, cs =>
    match skipBlanks cs with
    | [] => some []
    | c :: cs =>
      if c == '#' || c == '\n' || c == '\r' then (restOfLine? (c :: cs)).bind (skipLines? n)
      else some (c :: cs)

/-- What follows all space. -/
def skipSpace? (cs : List Char) : Option (List Char) :=
  skipLines? (cs.length + 1) cs

/-! ## Keys -/

def isKeyChar (c : Char) : Bool :=
  c.isAlphanum || c == '_' || c == '-'

/-- One name of a key. -/
def name? (cs : List Char) : Option (String × List Char) :=
  match cs.span isKeyChar with
  | ([], cs) => quoted? cs
  | (text, cs) => some (String.ofList text, cs)

/-- The names of a dotted key: those before the last one, and the last one.  The first number bounds
the names. -/
def key? : Nat → List Char → Option ((List String × String) × List Char)
  | 0, _ => none
  | n + 1, cs => do
    let (name, cs) ← name? (skipBlanks cs)
    match skipBlanks cs with
    | '.' :: cs =>
      let ((path, last), cs) ← key? n cs
      return ((name :: path, last), cs)
    | cs => return (([], name), cs)

/-! ## Values -/

mutual

/-- A value that starts at the first character, with the given depth left for what is inside it.  The
first number bounds the steps. -/
def value? : Nat → Nat → List Char → Option (Value × List Char)
  | 0, _, _ => none
  | fuel + 1, depth, cs =>
    match cs with
    | [] => none
    | '[' :: cs =>
      if depth = 0 then none
      else (items? fuel (depth - 1) cs).map fun r => (.list false r.1, r.2)
    | '\x7b' :: cs =>
      if depth = 0 then none
      else (members? fuel (depth - 1) [] cs).map fun r => (.table .inline r.1, r.2)
    | c :: cs =>
      if c == '"' || c == apostrophe then (text? (c :: cs)).map fun r => (.text r.1, r.2)
      else
        let (text, rest) := scalarText (c :: cs)
        (scalar? text).map (·, rest)

/-- The items of a list to its closing bracket. -/
def items? : Nat → Nat → List Char → Option (List Value × List Char)
  | 0, _, _ => none
  | fuel + 1, depth, cs => do
    match ← skipSpace? cs with
    | ']' :: cs => return ([], cs)
    | cs =>
      let (v, cs) ← value? fuel depth cs
      match ← skipSpace? cs with
      | ',' :: cs =>
        let (vs, cs) ← items? fuel depth cs
        return (v :: vs, cs)
      | ']' :: cs => return ([v], cs)
      | _ => none

/-- The members of a table to its closing brace, after those given. -/
def members? : Nat → Nat → Members → List Char → Option (Members × List Char)
  | 0, _, _, _ => none
  | fuel + 1, depth, ms, cs => do
    match ← skipSpace? cs with
    | '\x7d' :: cs => return (ms, cs)
    | cs =>
      let ((path, name), cs) ← key? (cs.length + 1) cs
      match cs with
      | '=' :: cs =>
        let (v, cs) ← value? fuel depth (skipBlanks cs)
        let ms ← ms.put? [] path name v
        match ← skipSpace? cs with
        | ',' :: cs => members? fuel depth ms cs
        | '\x7d' :: cs => return (ms, cs)
        | _ => none
      | _ => none

end

/-! ## Documents -/

def maxDepth : Nat := 80

/-- A document that is partly read. -/
structure Reading where
  root : Members
  /-- The names in the last header. -/
  header : List String

namespace Reading

def member? (r : Reading) (cs : List Char) : Option (Reading × List Char) := do
  let ((path, name), rest) ← key? (cs.length + 1) cs
  match rest with
  | '=' :: rest =>
    let rest := skipBlanks rest
    let (v, rest) ← value? (2 * rest.length + 2) maxDepth rest
    return ({ r with root := ← r.root.put? r.header path name v }, rest)
  | _ => none

def header? (r : Reading) (ofItem : Bool) (cs : List Char) : Option (Reading × List Char) := do
  let ((path, name), rest) ← key? (cs.length + 1) cs
  let root ← if ofItem then r.root.openItem? path name else r.root.openTable? path name
  match ofItem, rest with
  | false, ']' :: rest => return (⟨root, path ++ [name]⟩, rest)
  | true, ']' :: ']' :: rest => return (⟨root, path ++ [name]⟩, rest)
  | _, _ => none

/-- The statement that starts here, and the end of its line. -/
def statement? (r : Reading) (cs : List Char) : Option (Reading × List Char) := do
  let (r, rest) ← match cs with
    | '[' :: '[' :: cs => r.header? true cs
    | '[' :: cs => r.header? false cs
    | cs => r.member? cs
  return (r, ← restOfLine? rest)

/-- The members of the document's root.  Every statement takes a character at least. -/
def finish? (r : Reading) (cs : List Char) : Option Members :=
  match skipSpace? cs with
  | none => none
  | some [] => some r.root
  | some (c :: rest) =>
    match r.statement? (c :: rest) with
    | none => none
    | some (next, rest) => if rest.length < cs.length then next.finish? rest else none
termination_by cs.length

end Reading

/-- The members of the root of a text's document.  A byte order mark at its start is no part of it. -/
def Members.ofText? (s : String) : Option Members :=
  match s.toList with
  | '\ufeff' :: cs => Reading.finish? ⟨[], []⟩ cs
  | cs => Reading.finish? ⟨[], []⟩ cs

end LogOperator.Toml
