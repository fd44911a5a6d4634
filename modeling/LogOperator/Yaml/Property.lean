import LogOperator.Text.Numeral
import LogOperator.Yaml.Source
import LogOperator.Yaml.Token

/-!
# LogOperator.Yaml.Property

Anchors, tags and directives: the words that say something about a node or a document.  Each reader
gives a token and what follows it.
-/

namespace LogOperator.Yaml

def word (cs : List Spot) : String × List Spot :=
  let (w, rest) := cs.span fun s => isWordChar s.char
  (String.ofList (w.map Spot.char), rest)

def starts (c : Char) (cs : List Spot) : Bool :=
  (cs.head?.map Spot.char) == some c

/-! ## Anchors -/

/-- What may follow the name of an anchor. -/
def endsAnchor : List Spot → Bool
  | [] => true
  | s :: rest =>
    atGap (s :: rest)
      || ['?', ':', ',', ']', '\x7d', '%', '@', Char.ofNat 0x60].contains s.char

def anchor? (cs : List Spot) : Option (String × List Spot) :=
  let (name, rest) := word cs
  if name.isEmpty || !endsAnchor rest then none else some (name, rest)

/-! ## Tags -/

/-- The character may stand in a tag, or in one that is written between angle brackets. -/
def isTagChar (bracketed : Bool) (c : Char) : Bool :=
  isWordChar c || c == Char.ofNat 0x27
    || [';', '/', '?', ':', '@', '&', '=', '+', '$', '.', '%', '!', '~', '*', '(', ')'].contains c
    || bracketed && [',', '[', ']'].contains c

/-- How many bytes a character has whose first byte is given. -/
def sequenceLength? (octet : Nat) : Option Nat :=
  if octet < 0x80 then some 1
  else if octet < 0xc0 then none
  else if octet < 0xe0 then some 2
  else if octet < 0xf0 then some 3
  else if octet < 0xf8 then some 4
  else none

/-- The bytes of a tag, where a percent sign and two hexadecimal digits stand for a byte.  `left` more
bytes of a character must follow at once; `read` holds the bytes read, latest first. -/
def tagBytes? (bracketed : Bool) (left : Nat) (read : List UInt8) :
    List Spot → Option (List UInt8 × List Spot)
  | [] => if left = 0 then some (read.reverse, []) else none
  | s :: rest =>
    if s.char == '%' then
      match rest with
      | a :: b :: rest => do
        let octet := (← Text.digitBelow? 16 a.char) * 16 + (← Text.digitBelow? 16 b.char)
        let left ← if left = 0 then sequenceLength? octet
          else if 0x80 ≤ octet && octet < 0xc0 then some left else none
        tagBytes? bracketed (left - 1) (octet.toUInt8 :: read) rest
      | _ => none
    else if 0 < left then none
    else if isTagChar bracketed s.char then
      tagBytes? bracketed 0 (s.char.toNat.toUInt8 :: read) rest
    else some (read.reverse, s :: rest)

/-- The text of a tag; bytes that are no text stand as the replacement character. -/
def tagText? (bracketed : Bool) (cs : List Spot) : Option (String × List Spot) := do
  let (bytes, rest) ← tagBytes? bracketed 0 [] cs
  return ((String.fromUTF8? ⟨bytes.toArray⟩).getD "\ufffd", rest)

/-- The text of a tag that must not be empty. -/
def someTagText? (bracketed : Bool) (cs : List Spot) : Option (String × List Spot) :=
  (tagText? bracketed cs).filter fun t => !t.1.isEmpty

/-- A tag after its exclamation mark: the handle and the text that continues it.  A tag in angle
brackets has no handle, and neither has the exclamation mark alone. -/
def tagParts? : List Spot → Option ((String × String) × List Spot)
  | ⟨'<', _, _⟩ :: rest => do
    let (text, rest) ← someTagText? true rest
    if starts '>' rest then return (("", text), rest.tail) else none
  | cs =>
    let (name, rest) := word cs
    if starts '!' rest then do
      let (text, rest) ← someTagText? false rest.tail
      return (("!" ++ name ++ "!", text), rest)
    else do
      let (text, rest) ← tagText? false rest
      let suffix := name ++ text
      return (if suffix.isEmpty then ("", "!") else ("!", suffix), rest)

/-- A tag after its exclamation mark. -/
def tag? (inFlow : Bool) (cs : List Spot) : Option (Token × List Spot) := do
  let ((handle, suffix), rest) ← tagParts? cs
  if atGap rest || inFlow && starts ',' rest then return (.tag handle suffix, rest) else none

/-! ## Directives -/

/-- A number in a version: at most nine digits. -/
def versionNumber? (cs : List Spot) : Option (Nat × List Spot) :=
  let (digits, rest) := cs.span fun s => s.char.isDigit
  if digits.length ≤ 9 then (Text.numeral? 10 (digits.map Spot.char)).map (·, rest) else none

/-- The rest of a version directive. -/
def version? (cs : List Spot) : Option (Token × List Spot) := do
  let (major, rest) ← versionNumber? (skipBlanks cs)
  if !starts '.' rest then none
  else
    let (minor, rest) ← versionNumber? rest.tail
    return (.version major minor, rest)

/-- The handle that a tag directive explains. -/
def handle? (cs : List Spot) : Option (String × List Spot) :=
  if starts '!' cs then
    let (name, rest) := word cs.tail
    if starts '!' rest then some ("!" ++ name ++ "!", rest.tail)
    else if name.isEmpty then some ("!", rest)
    else none
  else none

/-- The rest of a tag directive. -/
def handleDirective? (cs : List Spot) : Option (Token × List Spot) := do
  let (name, rest) ← handle? (skipBlanks cs)
  if (rest.head?.any fun s => isBlank s.char) then
    let (start, rest) ← someTagText? true (skipBlanks rest)
    if atGap rest then return (.handle name start, rest) else none
  else none

/-- A directive after its percent sign, to the end of its line. -/
def directive? (cs : List Spot) : Option (Token × List Spot) := do
  let (name, rest) := word cs
  if !atGap rest then none
  else
    let (token, rest) ← if name = "YAML" then version? rest
      else if name = "TAG" then handleDirective? rest
      else none
    return (token, ← restOfLine? rest)

end LogOperator.Yaml
