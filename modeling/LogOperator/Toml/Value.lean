import LogOperator.Document
import LogOperator.Toml.Reader

/-!
# LogOperator.Toml.Value

TOML as a document.  A list gives the values of a record's members in order; items beyond the last
member do not count.  No value stands for nothing.
-/

namespace LogOperator.Toml.Value

def members? : Value → Option Members
  | .table _ ms => some ms
  | _ => none

def record? (names : List String) : Value → Option Members
  | .table _ ms => some ms
  | .list _ items => some (names.zip items)
  | _ => none

mutual

/-- The value in JSON, as far as JSON can tell values apart. -/
def json : Value → Json
  | .text s | .time s => .text s
  | .int n => .int n
  | .flag b => .bool b
  | .real source => .real source
  | .list _ items => .list (jsonItems items)
  | .table _ ms => .object (jsonMembers ms)

def jsonItems : List Value → List Json
  | [] => []
  | v :: vs => v.json :: jsonItems vs

def jsonMembers : List (String × Value) → List (String × Json)
  | [] => []
  | (name, v) :: ms => (name, v.json) :: jsonMembers ms

end

instance : Document Value where
  isNull? _ := some false
  text?
    | .text s => some s
    | _ => none
  bool?
    | .flag b => some b
    | _ => none
  int?
    | .int n => some n
    | _ => none
  nat?
    | .int (.ofNat n) => some n
    | _ => none
  items?
    | .list _ items => some items
    | _ => none
  members? := members?
  record? := record?
  choice?
    | .text s => some s
    | _ => none
  json? v := some v.json

def ofText? (s : String) : Option Value :=
  (Members.ofText? s).map (.table .header)

end LogOperator.Toml.Value
