import LogOperator.Json.Writer
import LogOperator.Text.Class
import LogOperator.Yaml.Value

/-!
# LogOperator.Yaml.Writer

The YAML text of a JSON value, in block style.  A list below a member is not indented.  Text stands
plain where it reads back as itself, otherwise between quotes.
-/

namespace LogOperator.Yaml

/-! ## Scalars -/

/-- A plain scalar of this text reads back as the text. -/
def readsBack (s : String) : Bool :=
  match (Value.ofText? s).map Value.node with
  | some (.scalar none .plain text) => text == s && (Value.plainJson? s matches some (.text _))
  | _ => false

/-- A text between single quotes, which are written twice inside. -/
def singleQuoted (s : String) : String :=
  String.ofList
    (apostrophe :: (s.toList.flatMap fun c => if c = apostrophe then [c, c] else [c]) ++ [apostrophe])

/-- A text as a scalar. -/
def scalarText (s : String) : String :=
  if readsBack s then s
  else if Text.hasControl s then Json.string s
  else singleQuoted s

/-- The text of a value that stands on one line: a scalar, or an empty list or object. -/
def inline? : Json → Option String
  | .null => some "null"
  | .bool b => some (if b then "true" else "false")
  | .int n => some (Json.render (.int n))
  | .real source => some source
  | .text s => some (scalarText s)
  | .list [] => some "[]"
  | .object [] => some "\x7b\x7d"
  | _ => none

/-! ## Collections -/

/-- The lines of an item, behind a dash. -/
def behindDash : List String → List String
  | [] => []
  | line :: lines => ("- " ++ line) :: lines.map ("  " ++ ·)

mutual

def lines : Json → List String
  | .list (item :: items) => itemLines (item :: items)
  | .object (m :: ms) => memberLines (m :: ms)
  | j => (inline? j).toList

def itemLines : List Json → List String
  | [] => []
  | j :: js => behindDash (lines j) ++ itemLines js

def memberLines : List (String × Json) → List String
  | [] => []
  | (name, j) :: ms =>
    let below := lines j
    let own := match inline? j, j with
      | some text, _ => [scalarText name ++ ": " ++ text]
      | none, .list _ => (scalarText name ++ ":") :: below
      | none, _ => (scalarText name ++ ":") :: below.map ("  " ++ ·)
    own ++ memberLines ms

end

def render (j : Json) : String :=
  Text.unlines (lines j)

end LogOperator.Yaml
