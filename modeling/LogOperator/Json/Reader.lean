import LogOperator.Json
import LogOperator.Text.Numeral

/-!
# LogOperator.Json.Reader

The JSON value that a text stands for, by the grammar of RFC 8259: one value with blanks around it,
nested at most 127 deep.
-/

namespace LogOperator.Json

def isBlank (c : Char) : Bool :=
  c == ' ' || c == '\t' || c == '\n' || c == '\r'

def skipBlanks (cs : List Char) : List Char :=
  cs.dropWhile isBlank

/-- Four hexadecimal digits and what follows them. -/
def hex4? : List Char → Option (Nat × List Char)
  | a :: b :: c :: d :: cs => (Text.numeral? 16 [a, b, c, d]).map (·, cs)
  | _ => none

/-- The character of an escape after its backslash, and what follows it.  A code unit above the
basic plane needs its partner. -/
def escape? : List Char → Option (Char × List Char)
  | '"' :: cs => some ('"', cs)
  | '\\' :: cs => some ('\\', cs)
  | '/' :: cs => some ('/', cs)
  | 'b' :: cs => some ('\x08', cs)
  | 'f' :: cs => some ('\x0c', cs)
  | 'n' :: cs => some ('\n', cs)
  | 'r' :: cs => some ('\r', cs)
  | 't' :: cs => some ('\t', cs)
  | 'u' :: cs =>
    match hex4? cs with
    | none => none
    | some (hi, cs) =>
      if hi < 0xd800 || 0xe000 ≤ hi then some (Char.ofNat hi, cs)
      else if 0xdc00 ≤ hi then none
      else match cs with
        | '\\' :: 'u' :: cs =>
          match hex4? cs with
          | some (lo, cs) =>
            if 0xdc00 ≤ lo && lo < 0xe000 then
              some (Char.ofNat (0x10000 + (hi - 0xd800) * 0x400 + (lo - 0xdc00)), cs)
            else none
          | none => none
        | _ => none
  | _ => none

/-- The characters of a string after its opening quote, and what follows the closing one. -/
def stringBody? : Nat → List Char → Option (List Char × List Char)
  | 0, _ => none
  | _, [] => none
  | fuel + 1, c :: cs =>
    if c = '"' then some ([], cs)
    else if c = '\\' then
      match escape? cs with
      | some (c, cs) => (stringBody? fuel cs).map fun r => (c :: r.1, r.2)
      | none => none
    else if c.toNat < 0x20 then none
    else (stringBody? fuel cs).map fun r => (c :: r.1, r.2)

/-- The string after an opening quote, and what follows it. -/
def string? (cs : List Char) : Option (String × List Char) :=
  (stringBody? (cs.length + 1) cs).map fun r => (String.ofList r.1, r.2)

/-- A non-empty run of digits and what follows it. -/
def digits? (cs : List Char) : Option (List Char × List Char) :=
  match cs.span Char.isDigit with
  | ([], _) => none
  | r => some r

/-- The fraction of a number, if there is one, and what follows it. -/
def fraction? : List Char → Option (List Char × List Char)
  | '.' :: cs => (digits? cs).map fun r => ('.' :: r.1, r.2)
  | cs => some ([], cs)

/-- The exponent of a number, if there is one, and what follows it. -/
def exponent? : List Char → Option (List Char × List Char)
  | e :: cs =>
    if e = 'e' || e = 'E' then
      match cs with
      | sign :: ds =>
        if sign = '+' || sign = '-' then (digits? ds).map fun r => (e :: sign :: r.1, r.2)
        else (digits? cs).map fun r => (e :: r.1, r.2)
      | [] => none
    else some ([], e :: cs)
  | [] => some ([], [])

/-- The sign of a number, if it has one, and what follows it. -/
def sign : List Char → List Char × List Char
  | '-' :: cs => (['-'], cs)
  | cs => ([], cs)

/-- The number of a sign, digits that stand for `n`, a fraction and an exponent.  Without fraction and
exponent it is whole, except for a zero with a sign and for numbers outside the range of 64 bits. -/
def ofParts (sign whole frac exp : List Char) (n : Nat) : Json :=
  let real := Json.real (String.ofList (sign ++ whole ++ frac ++ exp))
  if !frac.isEmpty || !exp.isEmpty then real
  else if sign.isEmpty then if n < UInt64.size then .int n else real
  else if 0 < n && n ≤ 9223372036854775808 then .int (-n) else real

/-- A number and what follows it. -/
def number? (cs : List Char) : Option (Json × List Char) := do
  let (whole, rest) ← digits? (sign cs).2
  guard (whole.length = 1 || whole.head? != some '0')
  let (frac, rest) ← fraction? rest
  let (exp, rest) ← exponent? rest
  let n ← Text.numeral? 10 whole
  return (ofParts (sign cs).1 whole frac exp n, rest)

/-- What follows an expected word. -/
def word? (w : String) (cs : List Char) : Option (List Char) :=
  if w.toList.isPrefixOf cs then some (cs.drop w.length) else none

mutual

/-- A value that starts at the first character, with the given depth left for what is inside it, and
what follows it.  The first number bounds the steps. -/
def value? : Nat → Nat → List Char → Option (Json × List Char)
  | 0, _, _ => none
  | fuel + 1, depth, cs =>
    match cs with
    | [] => none
    | '\x7b' :: cs =>
      if depth = 0 then none
      else match skipBlanks cs with
        | '\x7d' :: cs => some (.object [], cs)
        | cs => (members? fuel (depth - 1) cs).map fun r => (.object r.1, r.2)
    | '[' :: cs =>
      if depth = 0 then none
      else match skipBlanks cs with
        | ']' :: cs => some (.list [], cs)
        | cs => (items? fuel (depth - 1) cs).map fun r => (.list r.1, r.2)
    | '"' :: cs => (string? cs).map fun r => (.text r.1, r.2)
    | 't' :: _ => (word? "true" cs).map (.bool true, ·)
    | 'f' :: _ => (word? "false" cs).map (.bool false, ·)
    | 'n' :: _ => (word? "null" cs).map (.null, ·)
    | cs => number? cs

/-- The items of a list from the first one to the closing bracket, and what follows it. -/
def items? : Nat → Nat → List Char → Option (List Json × List Char)
  | 0, _, _ => none
  | fuel + 1, depth, cs =>
    match value? fuel depth cs with
    | none => none
    | some (j, cs) =>
      match skipBlanks cs with
      | ',' :: cs => (items? fuel depth (skipBlanks cs)).map fun r => (j :: r.1, r.2)
      | ']' :: cs => some ([j], cs)
      | _ => none

/-- The members of an object from the first one to the closing brace, and what follows it. -/
def members? : Nat → Nat → List Char → Option (List (String × Json) × List Char)
  | 0, _, _ => none
  | fuel + 1, depth, cs =>
    match cs with
    | '"' :: cs =>
      match string? cs with
      | none => none
      | some (name, cs) =>
        match skipBlanks cs with
        | ':' :: cs =>
          match value? fuel depth (skipBlanks cs) with
          | none => none
          | some (j, cs) =>
            match skipBlanks cs with
            | ',' :: cs =>
              (members? fuel depth (skipBlanks cs)).map fun r => ((name, j) :: r.1, r.2)
            | '\x7d' :: cs => some ([(name, j)], cs)
            | _ => none
        | _ => none
    | _ => none

end

def maxDepth : Nat := 127

def parse? (s : String) : Option Json :=
  let cs := skipBlanks s.toList
  match value? (2 * cs.length + 2) maxDepth cs with
  | some (j, cs) => if (skipBlanks cs).isEmpty then some j else none
  | none => none

end LogOperator.Json
