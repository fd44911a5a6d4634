import LogOperator.Yaml.Property
import LogOperator.Yaml.Scalar
import LogOperator.Yaml.Token

/-!
# LogOperator.Yaml.Token.Reader

The tokens of a YAML stream.

Whether a node is a key shows only at the colon after it.  So wherever a key could start, the place is
noted, and when the colon comes on the same line the key token is put in there; if it is the first key
of its column, a token that opens a mapping comes with it.

* `Token.ofText?`: the tokens of a stream, none if the stream has ill-formed tokens.
-/

namespace LogOperator.Yaml

/-- A place where a key may have started. -/
structure Candidate where
  /-- What starts here can be nothing but a key: it stands in the column of a block mapping. -/
  required : Bool
  /-- How many tokens come before it. -/
  position : Nat
  line : Nat
  column : Nat

/-- How long a key may be. -/
def maxKeyLength : Nat := 1024

/-- The key has not ended where it had to: on its line, within its length. -/
def Candidate.isStale (k : Candidate) (s : Spot) : Bool :=
  k.line < s.line || k.column + maxKeyLength < s.column

/-- A stream that is partly read. -/
structure Scan where
  rest : List Spot
  tokens : Array Token
  /-- The columns of the open block collections, innermost first. -/
  blocks : List Nat
  /-- A key may start at the next token. -/
  keyAllowed : Bool
  /-- The candidate of the innermost flow collection, or of the block around all of them. -/
  candidate : Option Candidate
  /-- The candidates of what surrounds each open flow collection, innermost first. -/
  outer : List (Option Candidate)

namespace Scan

def start (spots : List Spot) : Scan :=
  ⟨spots, #[], [], true, none, []⟩

/-- A flow collection is open. -/
def inFlow (s : Scan) : Bool :=
  !s.outer.isEmpty

def push (s : Scan) (t : Token) : Scan :=
  { s with tokens := s.tokens.push t }

/-! ## Space between tokens -/

/-- A byte order mark at the start of a line, which takes a column but is not part of the line. -/
def isOrderMark (s : Spot) : Bool :=
  s.column == 0 && s.char == '\ufeff'

/-- The place of the next token, and whether a key may start there.  A new line in a block allows a
key; where one is allowed, no tab may stand before the token. -/
def nextToken (inFlow : Bool) (inComment keyAllowed : Bool) : List Spot → Bool × List Spot
  | [] => (keyAllowed, [])
  | s :: rest =>
    if isBreak s.char then nextToken inFlow false (keyAllowed || !inFlow) rest
    else if inComment || s.char == '#' then nextToken inFlow true keyAllowed rest
    else if isOrderMark s || s.char == ' ' || s.char == '\t' && (inFlow || !keyAllowed) then
      nextToken inFlow false keyAllowed rest
    else (keyAllowed, s :: rest)

/-- The scan at its next token. -/
def skip (s : Scan) : Scan :=
  let (keyAllowed, rest) := nextToken s.inFlow false s.keyAllowed s.rest
  { s with keyAllowed, rest }

/-! ## Keys -/

/-- Gives a candidate up, which a required one does not allow. -/
def giveUp? : Option Candidate → Option (Option Candidate)
  | some k => if k.required then none else some none
  | none => some none

/-- Gives up the candidates that are stale at a place. -/
def expire? (s : Scan) (spot : Spot) : Option Scan := do
  let check (k : Option Candidate) := if k.any (·.isStale spot) then giveUp? k else some k
  return { s with candidate := ← check s.candidate, outer := ← s.outer.mapM check }

def dropCandidate? (s : Scan) : Option Scan := do
  return { s with candidate := ← giveUp? s.candidate }

/-- Notes the next token as a candidate, where a key may start. -/
def noteCandidate? (s : Scan) (spot : Spot) : Option Scan := do
  if s.keyAllowed then
    let s ← s.dropCandidate?
    let required := !s.inFlow && s.blocks.head? = some spot.column
    return { s with candidate := some ⟨required, s.tokens.size, spot.line, spot.column⟩ }
  else return s

/-! ## Block collections -/

/-- Closes the block collections that are indented deeper than a column. -/
def closeBlocks (s : Scan) (column : Nat) : Scan :=
  if s.inFlow then s
  else
    let (closed, blocks) := s.blocks.span (column < ·)
    { s with blocks, tokens := closed.foldl (fun ts _ => ts.push .blockEnd) s.tokens }

def closeAllBlocks (s : Scan) : Scan :=
  if s.inFlow then s
  else { s with blocks := [], tokens := s.blocks.foldl (fun ts _ => ts.push .blockEnd) s.tokens }

/-- Opens a block collection in a column, with its token at the given position, unless one is open
there. -/
def openBlock (s : Scan) (column position : Nat) (t : Token) : Scan :=
  if s.inFlow || s.blocks.head?.any (column ≤ ·) then s
  else { s with
    blocks := column :: s.blocks
    tokens := s.tokens.insertIdxIfInBounds position t }

/-! ## Tokens -/

/-- A directive or a document mark, which ends all that is open. -/
def betweenDocuments? (s : Scan) : Option Scan := do
  let s ← s.closeAllBlocks.dropCandidate?
  return { s with keyAllowed := false }

def openFlow? (s : Scan) (spot : Spot) (t : Token) (rest : List Spot) : Option Scan := do
  let s ← s.noteCandidate? spot
  return { s.push t with
    rest, keyAllowed := true, candidate := none, outer := s.candidate :: s.outer }

def closeFlow? (s : Scan) (t : Token) (rest : List Spot) : Option Scan := do
  let s ← s.dropCandidate?
  let s := { s.push t with rest, keyAllowed := false }
  match s.outer with
  | [] => return s
  | k :: outer => return { s with candidate := k, outer }

def comma? (s : Scan) (rest : List Spot) : Option Scan := do
  let s ← s.dropCandidate?
  return { s.push .comma with rest, keyAllowed := true }

def item? (s : Scan) (spot : Spot) (rest : List Spot) : Option Scan := do
  if !s.inFlow && !s.keyAllowed then none
  else
    let s := s.openBlock spot.column s.tokens.size .blockSequenceStart
    let s ← s.dropCandidate?
    return { s.push .item with rest, keyAllowed := true }

/-- The question mark before a key. -/
def key? (s : Scan) (spot : Spot) (rest : List Spot) : Option Scan := do
  if !s.inFlow && !s.keyAllowed then none
  else
    let s := s.openBlock spot.column s.tokens.size .blockMappingStart
    let s ← s.dropCandidate?
    return { s.push .key with rest, keyAllowed := !s.inFlow }

/-- The colon before a value. -/
def value? (s : Scan) (spot : Spot) (rest : List Spot) : Option Scan :=
  match s.candidate with
  | some k =>
    let s := { s with tokens := s.tokens.insertIdxIfInBounds k.position .key }
    let s := s.openBlock k.column k.position .blockMappingStart
    some { s.push .value with rest, keyAllowed := false, candidate := none }
  | none =>
    if !s.inFlow && !s.keyAllowed then none
    else
      let s := s.openBlock spot.column s.tokens.size .blockMappingStart
      some { s.push .value with rest, keyAllowed := !s.inFlow }

/-- A token that may be or start a key. -/
def word? (s : Scan) (spot : Spot) (read : Option (Token × List Spot)) : Option Scan := do
  let s ← s.noteCandidate? spot
  let (t, rest) ← read
  return { s.push t with rest, keyAllowed := false }

/-- A plain scalar.  After a line end a key may follow. -/
def plainScalar? (s : Scan) (spot : Spot) : Option Scan := do
  let s ← s.noteCandidate? spot
  let ((text, broken), rest) ← plain? s.inFlow (s.blocks.head?.elim 0 (· + 1)) [] .none s.rest
  return { s.push (.scalar .plain text) with rest, keyAllowed := broken }

def blockScalar? (s : Scan) (style : Style) (rest : List Spot) : Option Scan := do
  let s ← s.dropCandidate?
  let (text, rest) ← block? (style == .folded) s.blocks.head? rest
  return { s.push (.scalar style text) with rest, keyAllowed := true }

/-- The scan after its next token, which starts at the given place. -/
def token? (s : Scan) (spot : Spot) (rest : List Spot) : Option Scan := do
  let here := s.rest
  let s := s.closeBlocks spot.column
  let c := spot.char
  if spot.column = 0 && c == '%' then
    let s ← s.betweenDocuments?
    let (t, rest) ← directive? rest
    return { s.push t with rest }
  else if isMark '-' here then
    return { (← s.betweenDocuments?).push .documentStart with rest := here.drop 3 }
  else if isMark '.' here then
    return { (← s.betweenDocuments?).push .documentEnd with rest := here.drop 3 }
  else if c == '[' then s.openFlow? spot .flowSequenceStart rest
  else if c == '\x7b' then s.openFlow? spot .flowMappingStart rest
  else if c == ']' then s.closeFlow? .flowSequenceEnd rest
  else if c == '\x7d' then s.closeFlow? .flowMappingEnd rest
  else if c == ',' then s.comma? rest
  else if c == '-' && atGap rest then s.item? spot rest
  else if c == '?' && (s.inFlow || atGap rest) then s.key? spot rest
  else if c == ':' && (s.inFlow || atGap rest) then s.value? spot rest
  else if c == '*' then s.word? spot ((anchor? rest).map fun a => (.alias a.1, a.2))
  else if c == '&' then s.word? spot ((anchor? rest).map fun a => (.anchor a.1, a.2))
  else if c == '!' then s.word? spot (tag? s.inFlow rest)
  else if c == '|' && !s.inFlow then s.blockScalar? .literal rest
  else if c == '>' && !s.inFlow then s.blockScalar? .folded rest
  else if c == apostrophe then
    s.word? spot ((single? [] .none false rest).map fun a => (.scalar .single a.1, a.2))
  else if c == '"' then
    s.word? spot ((double? [] .none .none rest).map fun a => (.scalar .double a.1, a.2))
  else if startsPlain s.inFlow here then s.plainScalar? spot
  else none

/-- The tokens of the rest of the stream.  Every token takes a character at least. -/
def tokens? (s : Scan) : Option (List Token) :=
  match s.skip.rest with
  | [] => (s.skip.closeAllBlocks.dropCandidate?).map fun s => s.tokens.toList
  | spot :: rest =>
    match (s.skip.expire? spot).bind (·.token? spot rest) with
    | none => none
    | some next => if next.rest.length < s.rest.length then next.tokens? else none
termination_by s.rest.length

end Scan

/-- The tokens of a stream. -/
def Token.ofText? (s : String) : Option (List Token) :=
  (spots? s).bind fun spots => (Scan.start spots).tokens?

end LogOperator.Yaml
