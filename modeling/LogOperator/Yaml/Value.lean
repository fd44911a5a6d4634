import LogOperator.Document
import LogOperator.Yaml.Core
import LogOperator.Yaml.Node.Reader

/-!
# LogOperator.Yaml.Value

YAML as a document.  The reader asks for a type, and a scalar answers by its text: as a text every
scalar is what it says, as a flag or a number only what stands plain, or in a literal block with the
tag of the type.  An empty plain scalar is an empty list or object too.
-/

namespace LogOperator.Yaml

/-- The tag of a type. -/
def standardTag (type : String) : String :=
  "tag:yaml.org,2002:" ++ type

/-- The name in a tag of this document's own. -/
def ownTag? (tag : String) : Option String :=
  match tag.toList with
  | ['!'] => some tag
  | '!' :: cs => some (String.ofList cs)
  | _ => none

namespace Value

/-- Another node of the same document. -/
def beside (v : Value) (n : Node) : Value :=
  { v with node := n }

/-- The value has nothing to it. -/
def isEmpty : Node → Bool
  | .scalar _ .plain text => text.isEmpty
  | _ => false

def text? (v : Value) : Option String :=
  match v.resolve.node with
  | .scalar _ _ text => some text
  | _ => none

/-- What the text of a scalar stands for that may be of the given type. -/
def typed? {β : Type} (type : String) (read : String → Option β) (v : Value) : Option β :=
  match v.resolve.node with
  | .scalar _ .plain text => read text
  | .scalar tag .literal text => if tag = some (standardTag type) then read text else none
  | _ => none

def isNull? (v : Value) : Option Bool :=
  match v.resolve.node with
  | .scalar tag .plain text =>
    match tag with
    | none => some (text.isEmpty || Core.isNull text)
    | some tag =>
      if tag = standardTag "null" then if Core.isNull text then some true else none
      else some false
  | _ => some false

def items? (v : Value) : Option (List Value) :=
  match v.resolve.node with
  | .sequence _ items => some (items.map v.beside)
  | n => if isEmpty n then some [] else none

/-- The members of a mapping, whose keys must be scalars. -/
def members? (v : Value) : Option (List (String × Value)) :=
  match v.resolve.node with
  | .mapping _ members => members.mapM fun m => (v.beside m.1).text?.map (·, v.beside m.2)
  | n => if isEmpty n then some [] else none

/-- The name of an alternative: the text of a scalar, or the name in its tag if it has no text. -/
def choice? (v : Value) : Option String :=
  match v.resolve.node with
  | .scalar tag style text =>
    match tag.bind ownTag? with
    | some name =>
      if style = .plain && (text.isEmpty || Core.isNull text) then some name else none
    | none => some text
  | _ => none

/-! ## Values of no given type -/

/-- The value of a plain scalar. -/
def plainJson? (text : String) : Option Json :=
  if text.isEmpty || Core.isNull text then some .null
  else
    match Core.bool? text with
    | some b => some (.bool b)
    | none => numberJson?
where
  /-- A number, or else the text. -/
  numberJson? : Option Json :=
    match ((Core.nat? text).map Int.ofNat).or (Core.int? text) with
    | some n => some (.int n)
    | none =>
      if ((Core.unsigned? text.toList).map Int.ofNat |>.or (Core.negative? text)).isSome then none
      else if Core.isPaddedDigits (text.toList.dropWhile fun c => c == '+' || c == '-') then
        some (.text text)
      else if Core.isUnbounded text then some .null
      else some (((Core.real? text).map Json.real).getD (.text text))

/-- The value of a scalar, by its tag if it has one. -/
def scalarJson? (tag : Option String) (style : Style) (text : String) : Option Json :=
  match tag with
  | none => if style = .plain then plainJson? text else some (.text text)
  | some tag =>
    if tag = standardTag "null" then if Core.isNull text then some .null else none
    else if tag = standardTag "bool" then (Core.bool? text).map .bool
    else if tag = standardTag "int" then
      (((Core.nat? text).map Int.ofNat).or (Core.int? text)).map .int
    else if tag = standardTag "float" then
      if Core.isUnbounded text then some .null else (Core.real? text).map .real
    else if (ownTag? tag).isSome then none
    else some (.text text)

/-- How deep a value of no given type may nest. -/
def maxDepth : Nat := 124

/-- The value without tags and aliases.  Of members of one name the last counts. -/
def jsonTo? : Nat → Value → Option Json
  | depth, v =>
    match v.resolve.node, depth with
    | .scalar tag style text, _ => scalarJson? tag style text
    | .sequence tag items, depth + 1 =>
      if (tag.bind ownTag?).isSome then none
      else (items.mapM fun n => jsonTo? depth (v.beside n)).map .list
    | .mapping tag members, depth + 1 =>
      if (tag.bind ownTag?).isSome then none
      else do
        let ms ← members.mapM fun m => do
          return (← (v.beside m.1).text?, ← jsonTo? depth (v.beside m.2))
        return .object (Dict.ofList ms).entries
    | _, _ => none

instance : Document Value where
  isNull? := isNull?
  text? := text?
  bool? := typed? "bool" Core.bool?
  int? := typed? "int" Core.int?
  nat? := typed? "int" Core.nat?
  items? := items?
  members? := members?
  record? _ := members?
  choice? := choice?
  json? := jsonTo? maxDepth

end Value

end LogOperator.Yaml
