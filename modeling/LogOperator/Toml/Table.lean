/-!
# LogOperator.Toml.Table

The tables of a TOML document.  A table is defined once: by a header, in braces, or piece by piece
through dotted keys.  A header may also lead through a table that has no header of its own yet.

* `Members.put?`: adds a value under a dotted key.
* `Members.openTable?`, `Members.openItem?`: the headers of a table and of an item of a list of tables.
-/

namespace LogOperator.Toml

/-- How a table came to be. -/
inductive Origin where
  | header
  /-- A longer header leads through it. -/
  | implied
  /-- A dotted key leads through it. -/
  | dotted
  /-- It stands in braces, and is complete. -/
  | inline
deriving DecidableEq, Inhabited

/-- A value. -/
inductive Value where
  | text (s : String)
  | int (n : Int)
  | flag (b : Bool)
  /-- A number with a fraction or an exponent, or one of the special numbers, as it is written. -/
  | real (source : String)
  /-- A date, a time or both, as it is written. -/
  | time (source : String)
  /-- A list; `ofTables` says that headers add tables to it. -/
  | list (ofTables : Bool) (items : List Value)
  | table (origin : Origin) (members : List (String × Value))
deriving Inhabited

/-- The members of a table in the order in which they were defined. -/
abbrev Members := List (String × Value)

namespace Members

/-- The members with another value under a name that is there. -/
def replace (name : String) (v : Value) (ms : Members) : Members :=
  ms.map fun m => if m.1 = name then (name, v) else m

/-- The members with a value under a name that is not there yet. -/
def add? (name : String) (v : Value) (ms : Members) : Option Members :=
  if (ms.lookup name).isSome then none else some (ms ++ [(name, v)])

/-- Changes the members of the table at a path below a table of the given origin.  Tables that are
missing on the way are made.  A list of tables leads on to its last table.  A dotted key does not lead
into a table that has a header, and nothing leads into braces. -/
def change? (isDotted : Bool) (f : Origin → Members → Option Members) (origin : Origin) (ms : Members) :
    List String → Option Members
  | [] => f origin ms
  | name :: path =>
    match ms.lookup name with
    | none =>
      let made := if isDotted then Origin.dotted else .implied
      (change? isDotted f made [] path).bind fun inner => ms.add? name (.table made inner)
    | some (.table origin inner) =>
      if origin = .inline || isDotted && origin = .header then none
      else
        (change? isDotted f origin inner path).map fun inner => ms.replace name (.table origin inner)
    | some (.list true items) =>
      match items.getLast? with
      | some (.table origin inner) =>
        (change? isDotted f origin inner path).map fun inner =>
          ms.replace name (.list true (items.dropLast ++ [.table origin inner]))
      | _ => none
    | _ => none

/-- Adds a value under a dotted key below the table of the given header.  The table that takes it must
be the header's own or made by dotted keys. -/
def put? (header path : List String) (name : String) (v : Value) (ms : Members) : Option Members :=
  change? false (fun origin inner =>
      change? true (fun origin last =>
          if path.isEmpty || origin = .dotted then last.add? name v else none)
        origin inner path)
    .header ms header

/-- Opens the table of a header. -/
def openTable? (path : List String) (name : String) (ms : Members) : Option Members :=
  change? false (fun _ inner =>
      match inner.lookup name with
      | none => inner.add? name (.table .header [])
      | some (.table .implied members) => some (inner.replace name (.table .header members))
      | _ => none)
    .header ms path

/-- Opens another table in a list of tables. -/
def openItem? (path : List String) (name : String) (ms : Members) : Option Members :=
  change? false (fun _ inner =>
      match inner.lookup name with
      | none => inner.add? name (.list true [.table .header []])
      | some (.list true items) =>
        some (inner.replace name (.list true (items ++ [.table .header []])))
      | _ => none)
    .header ms path

end Members

end LogOperator.Toml
