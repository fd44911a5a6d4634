import LogOperator.Instant
import LogOperator.Text.Class
import LogOperator.Text.Numeral
import LogOperator.Toml.Table

/-!
# LogOperator.Toml.Scalar

The values that stand without quotes: flags, whole numbers, other numbers, dates and times.
Underscores may part the digits of a number, and a decimal number has no leading zero.
-/

namespace LogOperator.Toml

/-! ## Numbers -/

/-- Digits without the underscores between them. -/
def digits? (radix : Nat) (cs : List Char) : Option (List Char) :=
  let parts := Text.splitAt '_' cs
  if parts.all fun p => !p.isEmpty && p.all fun c => (Text.digitBelow? radix c).isSome then
    some parts.flatten
  else none

def decimal? (cs : List Char) : Option (List Char) :=
  (digits? 10 cs).filter fun ds => ds.length ≤ 1 || ds.head? != some '0'

/-- A sign, if there is one, and what follows it. -/
def sign (cs : List Char) : Option Char × List Char :=
  match cs with
  | '+' :: cs => (some '+', cs)
  | '-' :: cs => (some '-', cs)
  | cs => (none, cs)

/-- A whole number.  Only a decimal one has a sign. -/
def whole? (cs : List Char) : Option Int :=
  let inRadix (radix : Nat) (cs : List Char) : Option Int :=
    (digits? radix cs).bind fun ds => (Text.numeral? radix ds).map Int.ofNat
  match cs with
  | '0' :: 'x' :: cs => inRadix 16 cs
  | '0' :: 'o' :: cs => inRadix 8 cs
  | '0' :: 'b' :: cs => inRadix 2 cs
  | cs =>
    let (sign, cs) := sign cs
    (decimal? cs).bind fun ds => (Text.numeral? 10 ds).map fun n =>
      if sign = some '-' then -(n : Int) else n

/-- The least whole number: one of 128 bits with a sign. -/
def leastWhole : Int := -170141183460469231731687303715884105728

/-- The greatest whole number: one of 128 bits without a sign. -/
def greatestWhole : Int := 340282366920938463463374607431768211455

/-- A whole number within the bounds. -/
def boundedWhole? (cs : List Char) : Option Int :=
  (whole? cs).filter fun n => leastWhole ≤ n && n ≤ greatestWhole

/-- A fraction or nothing is well-formed. -/
def isFraction (cs : List Char) : Bool :=
  match cs with
  | [] => true
  | '.' :: cs => (digits? 10 cs).isSome
  | _ => false

/-- A number with a fraction, an exponent or both. -/
def isReal (cs : List Char) : Bool :=
  let (_, cs) := sign cs
  if [['i', 'n', 'f'], ['n', 'a', 'n']].contains cs then true
  else
    let (mantissa, exponent) := cs.span fun c => c != 'e' && c != 'E'
    let (whole, fraction) := mantissa.span (· != '.')
    let isExponent := match exponent with
      | [] => !fraction.isEmpty
      | _ :: cs => (digits? 10 (sign cs).2).isSome
    (decimal? whole).isSome && isFraction fraction && isExponent

/-! ## Dates and times -/

/-- A number of two digits, at most the given one, and what follows it. -/
def twoDigits? (most : Nat) : List Char → Option (Nat × List Char)
  | a :: b :: cs => ((Text.numeral? 10 [a, b]).filter (· ≤ most)).map (·, cs)
  | _ => none

def after? (c : Char) : List Char → Option (List Char)
  | d :: cs => if d = c then some cs else none
  | [] => none

def afterDate? (cs : List Char) : Option (List Char) := do
  let (century, cs) ← twoDigits? 99 cs
  let (year, cs) ← twoDigits? 99 cs
  let (month, cs) ← twoDigits? 12 (← after? '-' cs)
  let (day, cs) ← twoDigits? 31 (← after? '-' cs)
  if 1 ≤ month && 1 ≤ day && day ≤ Date.daysIn (century * 100 + year) month then some cs else none

/-- What follows the seconds of a time, if it has seconds. -/
def afterSeconds? : List Char → Option (List Char)
  | ':' :: cs => do
    let (_, cs) ← twoDigits? 60 cs
    match cs with
    | '.' :: cs =>
      match cs.span Char.isDigit with
      | ([], _) => none
      | (_, cs) => some cs
    | cs => some cs
  | cs => some cs

/-- What follows a time of day. -/
def afterTime? (cs : List Char) : Option (List Char) := do
  let (_, cs) ← twoDigits? 23 cs
  let (_, cs) ← twoDigits? 59 (← after? ':' cs)
  afterSeconds? cs

/-- An offset from universal time, or none, stands alone. -/
def isOffset : List Char → Bool
  | [] => true
  | [c] => c == 'Z' || c == 'z'
  | c :: cs =>
    (c == '+' || c == '-') && ((do
      let (_, cs) ← twoDigits? 23 cs
      let (_, cs) ← twoDigits? 59 (← after? ':' cs)
      return cs : Option (List Char)) matches some [])

/-- A date, a time or both. -/
def isTime (cs : List Char) : Bool :=
  match afterDate? cs with
  | some [] => true
  | some (c :: rest) => ['T', 't', ' '].contains c && (afterTime? rest).any isOffset
  | none => (afterTime? cs).any List.isEmpty

/-! ## All of them -/

def isScalarChar (c : Char) : Bool :=
  c.isAlphanum || ['_', '-', '+', '.', ':'].contains c

/-- The text of a value without quotes, and what follows it.  A blank may part a date from a time. -/
def scalarText (cs : List Char) : List Char × List Char :=
  let (text, rest) := cs.span isScalarChar
  match afterDate? text, rest with
  | some [], ' ' :: c :: more =>
    if c.isDigit then
      let (time, rest) := (c :: more).span isScalarChar
      (text ++ ' ' :: time, rest)
    else (text, rest)
  | _, _ => (text, rest)

def scalar? (cs : List Char) : Option Value :=
  if cs = "true".toList then some (.flag true)
  else if cs = "false".toList then some (.flag false)
  else
    match boundedWhole? cs with
    | some n => some (.int n)
    | none =>
      if (whole? cs).isSome then none
      else if isReal cs then some (.real (String.ofList cs))
      else if isTime cs then some (.time (String.ofList cs))
      else none

end LogOperator.Toml
