/-!
# LogOperator.Yaml.Token

The tokens of a YAML stream.  Where indentation opens and closes collections, and where a key stands
before its colon, tokens of their own say so.
-/

namespace LogOperator.Yaml

/-- How a scalar is written. -/
inductive Style where
  | plain
  | single
  | double
  | literal
  | folded
deriving DecidableEq, Inhabited

/-- A token of a stream. -/
inductive Token where
  /-- The version of the format that a document claims. -/
  | version (major minor : Nat)
  /-- What a handle of tags stands for. -/
  | handle (name start : String)
  | documentStart
  | documentEnd
  | blockSequenceStart
  | blockMappingStart
  | blockEnd
  | flowSequenceStart
  | flowSequenceEnd
  | flowMappingStart
  | flowMappingEnd
  /-- The dash before an item. -/
  | item
  /-- The comma after an item or member. -/
  | comma
  /-- A key follows. -/
  | key
  /-- A value follows. -/
  | value
  | alias (name : String)
  | anchor (name : String)
  | tag (handle suffix : String)
  | scalar (style : Style) (text : String)
deriving DecidableEq, Inhabited

end LogOperator.Yaml
