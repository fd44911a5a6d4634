import LogOperator.Json

/-!
# LogOperator.Document

What a typed value is read from.  The formats differ in what a scalar may stand for, so each says
for itself which of its values are texts, flags, numbers, lists and objects; the readers of typed
values are written once over this class.

Two conventions for members occur.  A *record* of this program has every member at most once,
and a member that is there has a value: `required`, `defaulted`.  An *object* of the
cluster takes a null member for a missing one, and of repeated members the last: `optional`.
-/

namespace LogOperator

/-- A format of structured values. -/
class Document (α : Type) where
  /-- Whether the value stands for nothing; none if it claims to and does not. -/
  isNull? : α → Option Bool
  /-- The value as a text. -/
  text? : α → Option String
  /-- The value as a flag. -/
  bool? : α → Option Bool
  /-- The value as a whole number. -/
  int? : α → Option Int
  /-- The value as a whole number that is not negative. -/
  nat? : α → Option Nat
  /-- The value as a list. -/
  items? : α → Option (List α)
  /-- The value as an object: its members in order, repeated names included. -/
  members? : α → Option (List (String × α))
  /-- The value as a record whose members have the given names in order. -/
  record? : List String → α → Option (List (String × α))
  /-- The value as the name of an alternative. -/
  choice? : α → Option String
  /-- The value without the format's own spelling. -/
  json? : α → Option Json

namespace Document

variable {α β : Type} [Document α]

/-! ## Values -/

/-- A whole number between two bounds. -/
def intIn? (lo hi : Int) (v : α) : Option Int :=
  (int? v).filter fun n => lo ≤ n && n ≤ hi

/-- A whole number from zero to an upper bound. -/
def natTo? (hi : Nat) (v : α) : Option Nat :=
  (nat? v).filter (· ≤ hi)

def port? (v : α) : Option UInt16 :=
  (natTo? 65535 v).map Nat.toUInt16

/-- A list whose items are all read. -/
def listOf? (read : α → Option β) (v : α) : Option (List β) :=
  (items? v).bind fun vs => vs.mapM read

def nullable? (read : α → Option β) (v : α) : Option (Option β) := do
  if ← isNull? v then return none else return some (← read v)

/-- A map of texts; of repeated keys the last counts. -/
def textMap? (v : α) : Option TextMap := do
  let ms ← members? v
  let es ← ms.mapM fun m => (text? m.2).map (m.1, ·)
  return Dict.ofList es

/-! ## Members of records -/

/-- The member of a name, if it is there; none at all if it is there more than once. -/
def single? (name : String) (ms : List (String × α)) : Option (Option α) :=
  match ms.filter (·.1 == name) with
  | [] => some none
  | [m] => some (some m.2)
  | _ => none

def required (read : α → Option β) (name : String) (ms : List (String × α)) : Option β := do
  let found ← single? name ms
  let v ← found
  read v

def defaulted (read : α → Option β) (dflt : β) (name : String) (ms : List (String × α)) :
    Option β := do
  match ← single? name ms with
  | none => return dflt
  | some v => read v

/-! ## Members of objects -/

/-- A member that may be missing or null; of repeated members the last counts, and all must be
readable. -/
def optional (read : α → Option β) (name : String) (ms : List (String × α)) :
    Option (Option β) := do
  let vs ← (ms.filter (·.1 == name)).mapM fun m => nullable? read m.2
  return vs.getLast?.join

/-- A member whose default stands for a missing or null one. -/
def optionalD (read : α → Option β) (dflt : β) (name : String) (ms : List (String × α)) :
    Option β :=
  (optional read name ms).map (·.getD dflt)

end Document

/-! ## JSON as a document -/

namespace Json

/-- The members of an object; a list gives the values of a record's members in order, as many as it
has. -/
def record? (names : List String) : Json → Option (List (String × Json))
  | .object ms => some ms
  | .list items => if items.length ≤ names.length then some (names.zip items) else none
  | _ => none

instance : Document Json where
  isNull? j := some (j matches .null)
  text?
    | .text s => some s
    | _ => none
  bool?
    | .bool b => some b
    | _ => none
  int?
    | .int n => some n
    | _ => none
  nat?
    | .int (.ofNat n) => some n
    | _ => none
  items?
    | .list js => some js
    | _ => none
  members?
    | .object ms => some ms
    | _ => none
  record? := record?
  choice?
    | .text s => some s
    | .object [(s, .null)] => some s
    | _ => none
  json? := some

end Json

end LogOperator
