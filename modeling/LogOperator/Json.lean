import LogOperator.Dict

/-!
# LogOperator.Json

JSON values.  Whole numbers are numbers; a number with a fraction or an exponent is kept as it was
written, because nothing here computes with it.  An object keeps its members in the order in which
they stand, repeated names included, so a reader can tell a repeated member from a single one.

* `Json.get?`: the last member of a name.
* `Json.sorted`: the value with its members in the order of their names.
* `Json.set?`, `Json.unset?`: an edit at a path of names and positions.
-/

namespace LogOperator

/-- A JSON value. -/
inductive Json where
  | null
  | bool (b : Bool)
  | int (n : Int)
  /-- A number that is not written as a whole number. -/
  | real (source : String)
  | text (s : String)
  | list (items : List Json)
  | object (members : List (String × Json))
deriving Inhabited

namespace Json

def texts (l : List String) : Json :=
  .list (l.map .text)

def textMap (m : TextMap) : Json :=
  .object (m.entries.map fun e => (e.1, .text e.2))

/-- The members that are there, in order. -/
def present (ms : List (String × Option Json)) : List (String × Json) :=
  ms.filterMap fun m => m.2.map (m.1, ·)

/-- The value of the last member of a name. -/
def get? (name : String) : Json → Option Json
  | .object ms => (ms.reverse.find? (·.1 == name)).map (·.2)
  | _ => none

/-! ## Order -/

mutual

/-- The value with the members of every object in the order of their names.  Of members of one name the
last stays. -/
def sorted : Json → Json
  | .list items => .list (sortedItems items)
  | .object ms => .object (Dict.ofList (sortedMembers ms)).entries
  | j => j

def sortedItems : List Json → List Json
  | [] => []
  | j :: js => j.sorted :: sortedItems js

def sortedMembers : List (String × Json) → List (String × Json)
  | [] => []
  | (name, j) :: ms => (name, j.sorted) :: sortedMembers ms

end

/-! ## Edits at a path -/

/-- A step into a value: a member of an object or a position in a list. -/
inductive Step where
  | member (name : String)
  | item (index : Nat)
deriving DecidableEq

/-- The members with the one of a name replaced, or added at the end. -/
def putMember (name : String) (v : Json) : List (String × Json) → List (String × Json)
  | [] => [(name, v)]
  | m :: ms => if m.1 = name then (name, v) :: ms else m :: putMember name v ms

/-- The value found by a step; a missing member is null. -/
def child (step : Step) (j : Json) : Json :=
  match step, j with
  | .member name, j => (j.get? name).getD .null
  | .item i, .list items => items.getD i .null
  | .item _, _ => .null

/-- The value with another one in the place of a step.  A member can be put into an object or into
nothing, which makes an object; a position must exist. -/
def put (step : Step) (v : Json) (j : Json) : Json :=
  match step, j with
  | .member name, .object ms => .object (putMember name v ms)
  | .member name, .null => .object [(name, v)]
  | .item i, .list items => .list (items.set i v)
  | _, j => j

/-- The value without the member or item of a step. -/
def drop (step : Step) (j : Json) : Json :=
  match step, j with
  | .member name, .object ms => .object (ms.filter (·.1 != name))
  | .item i, .list items => .list (items.eraseIdx i)
  | _, j => j

/-- The value with another one at a path, or without what stands there.  Objects on the way are
created. -/
def edit (v : Option Json) : List Step → Json → Json
  | [], j => v.getD j
  | [step], j =>
    match v with
    | some v => put step v j
    | none => drop step j
  | step :: path, j => put step (edit v path (child step j)) j

end Json

end LogOperator
