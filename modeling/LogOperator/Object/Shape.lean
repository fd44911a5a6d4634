import LogOperator.Document
import LogOperator.Instant

/-!
# LogOperator.Object.Shape

The shapes of the members of cluster objects that this library carries but does not look into.  A
shape reads a document into its plain value: unknown and null members are dropped, a missing member
that the shape demands is written with its blank value, and a value of another type is refused.

* `Shape.read?`: the value of a document in a shape.
* `Shape.readMembers?`: the members of an object, in the order of the shape.
-/

namespace LogOperator

/-- The shape of a value inside a cluster object. -/
inductive Shape where
  | text
  /-- Bytes, written in base 64 with padding. -/
  | bytes
  | flag
  /-- A whole number of 32 bits. -/
  | int32
  /-- A whole number of 64 bits. -/
  | int64
  /-- A whole number of 32 bits or a text, as ports and amounts are. -/
  | intOrText
  /-- A point in time. -/
  | time
  /-- Any value. -/
  | any
  | list (item : Shape)
  | map (value : Shape)
  /-- Members by name, with whether the object always has them. -/
  | object (members : List (String × Bool × Shape))
deriving Inhabited

namespace Shape

/-- An optional member. -/
def may (name : String) (s : Shape) : String × Bool × Shape :=
  (name, false, s)

/-- A member that the object always has. -/
def must (name : String) (s : Shape) : String × Bool × Shape :=
  (name, true, s)

def texts : Shape := .list .text

def textMap : Shape := .map .text

/-! ## Base 64 -/

/-- The value of a digit of base 64. -/
def base64Value? (c : Char) : Option Nat :=
  if c.isUpper then some (c.toNat - 'A'.toNat)
  else if c.isLower then some (c.toNat - 'a'.toNat + 26)
  else if c.isDigit then some (c.toNat - '0'.toNat + 52)
  else if c = '+' then some 62
  else if c = '/' then some 63
  else none

/-- Groups of four digits; the last group may end in padding, and then has no bits to spare. -/
def isBase64 : List Char → Bool
  | [] => true
  | [a, b, '=', '='] => (base64Value? a).isSome && (base64Value? b).any (· % 16 == 0)
  | [a, b, c, '='] =>
    (base64Value? a).isSome && (base64Value? b).isSome && (base64Value? c).any (· % 4 == 0)
  | a :: b :: c :: d :: cs => [a, b, c, d].all (base64Value? · |>.isSome) && isBase64 cs
  | _ => false

/-! ## Reading -/

/-- The bounds of whole numbers of 32 bits. -/
def int32? {α : Type} [Document α] (v : α) : Option Int :=
  Document.intIn? (-2147483648) 2147483647 v

/-- The bounds of whole numbers of 64 bits. -/
def int64? {α : Type} [Document α] (v : α) : Option Int :=
  Document.intIn? (-9223372036854775808) 9223372036854775807 v

mutual

/-- The value that stands for a missing member that an object always has. -/
def blank : Shape → Json
  | .text | .bytes => .text ""
  | .flag => .bool false
  | .int32 | .int64 | .intOrText => .int 0
  | .time => .text "1970-01-01T00:00:00Z"
  | .any => .null
  | .list _ => .list []
  | .map _ => .object []
  | .object ms => .object (blankMembers ms)

/-- The members that an object always has, each with its blank value. -/
def blankMembers : List (String × Bool × Shape) → List (String × Json)
  | [] => []
  | (name, always, s) :: ms => if always then (name, s.blank) :: blankMembers ms else blankMembers ms

end

open Document in
mutual

/-- The value of a document in a shape. -/
def read? {α : Type} [Document α] : Shape → α → Option Json
  | .text, v => (text? v).map .text
  | .bytes, v => ((text? v).filter fun s => isBase64 s.toList).map .text
  | .flag, v => (bool? v).map .bool
  | .int32, v => (int32? v).map .int
  | .int64, v => (int64? v).map .int
  | .intOrText, v => ((int32? v).map .int).or ((text? v).map .text)
  | .time, v => ((text? v).bind Instant.ofText?).map fun t => .text t.text
  | .any, v => json? v
  | .list s, v => (listOf? (read? s) v).map .list
  | .map s, v => do
    let ms ← members? v
    let es ← ms.mapM fun m => (read? s m.2).map (m.1, ·)
    return .object (Dict.ofList es).entries
  | .object shapes, v => do
    let ms ← members? v
    return .object (← readMembers? shapes ms)

/-- The members of an object in the order of their shapes. -/
def readMembers? {α : Type} [Document α] :
    List (String × Bool × Shape) → List (String × α) → Option (List (String × Json))
  | [], _ => some []
  | (name, always, s) :: shapes, ms => do
    let found ← optional (read? s) name ms
    let rest ← readMembers? shapes ms
    match found, always with
    | some j, _ => return (name, j) :: rest
    | none, true => return (name, s.blank) :: rest
    | none, false => return rest

end

end Shape

end LogOperator
