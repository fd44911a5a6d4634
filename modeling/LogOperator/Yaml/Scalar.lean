import LogOperator.Text.Numeral
import LogOperator.Yaml.Source

/-!
# LogOperator.Yaml.Scalar

The text of a scalar in each of its styles.  In a quoted or plain scalar a single line end reads as a
space, and of several line ends the first is dropped.  A block scalar keeps its line ends, or folds
those between lines of text.

Each reader gives the text of the scalar and what follows it.
-/

namespace LogOperator.Yaml

/-! ## Space between words -/

/-- The space read since the last word. -/
structure Space where
  /-- The blanks, latest first, as long as the line has not ended. -/
  blanks : List Char
  /-- A line has ended. -/
  broken : Bool
  /-- How the first line ended, unless its end was escaped. -/
  lineEnd : Option Char
  /-- How further lines ended, latest first. -/
  further : List Char

namespace Space

def none : Space := ⟨[], false, .none, []⟩

/-- The space after an escaped line end. -/
def escaped : Space := ⟨[], true, .none, []⟩

def isNone (g : Space) : Bool :=
  !g.broken && g.blanks.isEmpty

/-- The space with one more character.  Blanks at the start of a line do not count. -/
def add (g : Space) (c : Char) : Space :=
  if isBreak c then
    if g.broken then { g with further := c :: g.further } else ⟨[], true, some c, []⟩
  else if g.broken then g
  else { g with blanks := c :: g.blanks }

/-- What space reads as, latest character first. -/
def fold (g : Space) : List Char :=
  if !g.broken then g.blanks
  else if g.lineEnd = some '\n' then if g.further.isEmpty then [' '] else g.further
  else g.further ++ g.lineEnd.toList

end Space

/-! ## Quoted scalars -/

def apostrophe : Char := Char.ofNat 0x27

/-- A single-quoted scalar after its opening quote.  `text` is what was read, latest first; `closing`
says that the last character was a quote, which another quote would make part of the text. -/
def single? (text : List Char) (space : Space) (closing : Bool) :
    List Spot → Option (String × List Spot)
  | [] => if closing then some (String.ofList text.reverse, []) else none
  | s :: rest =>
    if closing then
      if s.char == apostrophe then single? (apostrophe :: text) .none false rest
      else some (String.ofList text.reverse, s :: rest)
    else if isBlank s.char || isBreak s.char then single? text (space.add s.char) false rest
    else if atDocumentMark (s :: rest) then none
    else if s.char == apostrophe then single? (space.fold ++ text) .none true rest
    else single? (s.char :: (space.fold ++ text)) .none false rest

/-- The character of an escape of one letter. -/
def escaped? (c : Char) : Option Char :=
  [('0', '\x00'), ('a', '\x07'), ('b', '\x08'), ('t', '\t'), ('\t', '\t'), ('n', '\n'),
   ('v', '\x0b'), ('f', '\x0c'), ('r', '\r'), ('e', '\x1b'), (' ', ' '), ('"', '"'), ('/', '/'),
   ('\\', '\\'), ('N', '\x85'), ('_', '\xa0'), ('L', '\u2028'), ('P', '\u2029')].lookup c

/-- How many digits an escape by number has. -/
def escapeDigits? (c : Char) : Option Nat :=
  [('x', 2), ('u', 4), ('U', 8)].lookup c

/-- Where a double-quoted scalar stands with an escape. -/
inductive Escape where
  | none
  /-- After the backslash. -/
  | opened
  /-- With so many digits left, and what the digits before them say. -/
  | digits (left value : Nat)

/-- A double-quoted scalar after its opening quote. -/
def double? (text : List Char) (space : Space) :
    Escape → List Spot → Option (String × List Spot)
  | _, [] => .none
  | .opened, s :: rest =>
    if isBreak s.char then double? text .escaped .none rest
    else
      match escapeDigits? s.char with
      | some n => double? text .none (.digits n 0) rest
      | .none =>
        match escaped? s.char with
        | some c => double? (c :: text) .none .none rest
        | .none => .none
  | .digits left value, s :: rest =>
    match Text.digitBelow? 16 s.char with
    | .none => .none
    | some d =>
      if left ≤ 1 then
        if (value * 16 + d).isValidChar then
          double? (Char.ofNat (value * 16 + d) :: text) .none .none rest
        else .none
      else double? text .none (.digits (left - 1) (value * 16 + d)) rest
  | .none, s :: rest =>
    if isBlank s.char || isBreak s.char then double? text (space.add s.char) .none rest
    else if atDocumentMark (s :: rest) then .none
    else if s.char == '"' then some (String.ofList (space.fold ++ text).reverse, rest)
    else if s.char == '\\' then double? (space.fold ++ text) .none .opened rest
    else double? (s.char :: (space.fold ++ text)) .none .none rest

/-! ## Plain scalars -/

/-- The character can start no plain scalar, whatever follows. -/
def isIndicator (c : Char) : Bool :=
  isFlowIndicator c || c == apostrophe
    || ['-', '?', ':', '#', '&', '*', '!', '|', '>', '"', '%', '@', Char.ofNat 0x60].contains c

/-- A plain scalar starts here. -/
def startsPlain (inFlow : Bool) : List Spot → Bool
  | [] => false
  | s :: rest =>
    if isIndicator s.char then
      s.char == '-' && !(rest.head?.any fun n => isBlank n.char)
        || !inFlow && (s.char == '?' || s.char == ':') && !atGap rest
    else !(isBlank s.char || isBreak s.char)

/-- A plain scalar, whose lines after the first are indented to the given column at least unless it
stands in a flow collection.  Also tells whether a line ended after its last word. -/
def plain? (inFlow : Bool) (indent : Nat) (text : List Char) (space : Space) :
    List Spot → Option ((String × Bool) × List Spot)
  | [] => some ((String.ofList text.reverse, space.broken), [])
  | s :: rest =>
    let done := some ((String.ofList text.reverse, space.broken), s :: rest)
    if isBlank s.char || isBreak s.char then
      if s.char == '\t' && space.broken && s.column < indent then none
      else plain? inFlow indent text (space.add s.char) rest
    else if !space.isNone && (!inFlow && s.column < indent || s.char == '#') then done
    else if space.broken && atDocumentMark (s :: rest) then done
    else if inFlow && s.char == ':'
        && rest.head?.any (fun n => isFlowIndicator n.char || n.char == '?') then none
    else if s.char == ':' && atGap rest || inFlow && isFlowIndicator s.char then done
    else plain? inFlow indent (s.char :: (space.fold ++ text)) .none rest

/-! ## Block scalars -/

/-- What becomes of the line ends after the last line of text. -/
inductive Chomping where
  | strip
  /-- One stays. -/
  | clip
  | keep
deriving DecidableEq

def chomping? (s : Spot) : Option Chomping :=
  if s.char == '+' then some .keep else if s.char == '-' then some .strip else none

/-- The header of a block scalar after its first character: the chomping, the indentation if it is
given, and what follows the line.  The two may stand in either order; no indentation is zero. -/
def header? (cs : List Spot) : Option ((Chomping × Option Nat) × List Spot) := do
  let chomping (cs : List Spot) := match cs with
    | s :: rest => ((chomping? s), if (chomping? s).isSome then rest else s :: rest)
    | [] => (none, [])
  let digit (cs : List Spot) := match cs with
    | s :: rest =>
      let n := Text.digitBelow? 10 s.char
      (n, if n.isSome then rest else s :: rest)
    | [] => (none, [])
  let (before, cs) := chomping cs
  let (indent, cs) := digit cs
  let (after, cs) := if before.isSome || indent.isNone then (none, cs) else chomping cs
  if indent = some 0 then none
  else return (((before.or after).getD .clip, indent), ← restOfLine? cs)

/-- The indentation of a block scalar that does not give it: that of its first line of text, or of
the widest blank line before it, and `least` at least.  None if a tab stands in the indentation. -/
def detectIndent? (least : Nat) : List Spot → Option Nat
  | [] => some least
  | s :: rest =>
    if s.char == ' ' then
      if rest.isEmpty then some (max least (s.column + 1)) else detectIndent? least rest
    else if s.char == '\t' then none
    else if isBreak s.char then detectIndent? (max least s.column) rest
    else some (max least s.column)

/-- What was read of a block scalar. -/
structure Lines where
  /-- The text, latest first, without the end of its last line. -/
  text : List Char
  /-- How the last line of text ended. -/
  lineEnd : Option Char
  /-- How the blank lines since then ended, latest first. -/
  further : List Char
  /-- The last line of text started with a blank. -/
  indented : Bool

namespace Lines

def none : Lines := ⟨[], .none, [], false⟩

/-- The first character of a line of text is read.  Folding joins it to the line before unless one of
the two starts with a blank. -/
def startLine (folded : Bool) (l : Lines) (c : Char) : Lines :=
  let between :=
    if folded && l.lineEnd == some '\n' && !l.indented && !isBlank c then
      if l.further.isEmpty then [' '] else l.further
    else l.further ++ l.lineEnd.toList
  ⟨c :: (between ++ l.text), .none, [], isBlank c⟩

/-- The text after chomping. -/
def chomp (chomping : Chomping) (l : Lines) : String :=
  String.ofList <| List.reverse <| match chomping with
    | .strip => l.text
    | .clip => l.lineEnd.toList ++ l.text
    | .keep => l.further ++ l.lineEnd.toList ++ l.text

end Lines

/-- The lines of a block scalar with the given indentation.  `inLine` says that a line of text has
started. -/
def lines? (folded : Bool) (indent : Nat) (l : Lines) (inLine : Bool) :
    List Spot → Option (Lines × List Spot)
  | [] => some (l, [])
  | s :: rest =>
    if inLine then
      if isBreak s.char then lines? folded indent { l with lineEnd := some s.char } false rest
      else lines? folded indent { l with text := s.char :: l.text } true rest
    else if s.column < indent && s.char == ' ' then lines? folded indent l false rest
    else if s.column < indent && s.char == '\t' then none
    else if isBreak s.char then
      lines? folded indent { l with further := s.char :: l.further } false rest
    else if s.column = indent then lines? folded indent (l.startLine folded s.char) true rest
    else some (l, s :: rest)

/-- A block scalar after its first character, inside collections of the given indentation. -/
def block? (folded : Bool) (outer : Option Nat) (cs : List Spot) :
    Option (String × List Spot) := do
  let ((chomping, given), cs) ← header? cs
  let indent ← match given with
    | some n => some (outer.getD 0 + n)
    | none => detectIndent? (max 1 (outer.elim 0 (· + 1))) cs
  let (l, cs) ← lines? folded indent .none false cs
  return (l.chomp chomping, cs)

end LogOperator.Yaml
