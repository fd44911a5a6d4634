/-!
# LogOperator.Yaml.Source

The characters of a YAML stream with the places where they stand.  Every line end is one character;
of the characters that end a line, all but the two Unicode separators are written as a newline.
-/

namespace LogOperator.Yaml

/-! ## Characters -/

/-- The character may stand in a stream. -/
def isPrintable (c : Char) : Bool :=
  c == '\t' || c == '\n' || c == '\r' || c == '\x85' || (' ' ≤ c && c ≤ '~')
    || ('\xa0' ≤ c && c ≤ '\ufffd') || 0x10000 ≤ c.toNat

/-- The character ends a line. -/
def isBreak (c : Char) : Bool :=
  c == '\n' || c == '\u2028' || c == '\u2029'

def isBlank (c : Char) : Bool :=
  c == ' ' || c == '\t'

/-- The character may stand in the name of an anchor or directive. -/
def isWordChar (c : Char) : Bool :=
  c.isAlphanum || c == '_' || c == '-'

/-- The character opens, closes or parts a flow collection. -/
def isFlowIndicator (c : Char) : Bool :=
  c == ',' || c == '[' || c == ']' || c == '\x7b' || c == '\x7d'

/-- The text with one character for each line end. -/
def uniform : List Char → List Char
  | [] => []
  | '\r' :: '\n' :: cs => '\n' :: uniform cs
  | c :: cs => (if c == '\r' || c == '\x85' then '\n' else c) :: uniform cs

/-! ## Places -/

/-- A character and its place. -/
structure Spot where
  char : Char
  line : Nat
  column : Nat
deriving Inhabited

/-- The characters with their places, from a given place on. -/
def place (line column : Nat) : List Char → List Spot
  | [] => []
  | c :: cs =>
    ⟨c, line, column⟩ :: if isBreak c then place (line + 1) 0 cs else place line (column + 1) cs

/-- The characters of a stream. -/
def spots? (s : String) : Option (List Spot) :=
  if s.toList.all isPrintable then some (place 0 0 (uniform s.toList)) else none

/-! ## What stands ahead -/

/-- A word ends here: at a blank, a line end or the end of the stream. -/
def atGap : List Spot → Bool
  | [] => true
  | s :: _ => isBlank s.char || isBreak s.char

def atLineEnd : List Spot → Bool
  | [] => true
  | s :: _ => isBreak s.char

/-- Three times the given character stands alone at the start of a line. -/
def isMark (mark : Char) : List Spot → Bool
  | a :: b :: c :: rest =>
    a.column == 0 && a.char == mark && b.char == mark && c.char == mark && atGap rest
  | _ => false

/-- A document starts or ends here. -/
def atDocumentMark (cs : List Spot) : Bool :=
  isMark '-' cs || isMark '.' cs

def skipBlanks (cs : List Spot) : List Spot :=
  cs.dropWhile fun s => isBlank s.char

/-- What follows the rest of a line that holds no more than blanks and a comment. -/
def restOfLine? (cs : List Spot) : Option (List Spot) :=
  let cs := skipBlanks cs
  let cs := if (cs.head?.map Spot.char) = some '#' then cs.dropWhile (!isBreak ·.char) else cs
  if atLineEnd cs then some cs.tail else none

end LogOperator.Yaml
