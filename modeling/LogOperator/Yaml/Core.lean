import LogOperator.Text.Numeral

/-!
# LogOperator.Yaml.Core

What plain scalars stand for: nothing, flags and numbers.  Whole numbers are decimal, or hexadecimal,
octal or binary behind `0x`, `0o` or `0b`; digits after a leading zero are no number.
-/

namespace LogOperator.Yaml.Core

def isNull (s : String) : Bool :=
  ["null", "Null", "NULL", "~"].contains s

def bool? (s : String) : Option Bool :=
  if ["true", "True", "TRUE"].contains s then some true
  else if ["false", "False", "FALSE"].contains s then some false
  else none

/-! ## Whole numbers -/

/-- The bound of whole numbers that are not negative. -/
def maxNat : Nat := 18446744073709551615

/-- The bounds of whole numbers with a sign. -/
def inRange (n : Int) : Bool :=
  -9223372036854775808 ≤ n && n ≤ 9223372036854775807

/-- Digits after a leading zero, which is no number. -/
def isPaddedDigits (cs : List Char) : Bool :=
  match cs with
  | '0' :: c :: rest => (c :: rest).all Char.isDigit
  | _ => false

/-- A number in the radix that its first two characters give. -/
def prefixed? : List Char → Option Nat
  | '0' :: 'x' :: cs => Text.numeral? 16 cs
  | '0' :: 'o' :: cs => Text.numeral? 8 cs
  | '0' :: 'b' :: cs => Text.numeral? 2 cs
  | _ => none

/-- A number without a sign. -/
def magnitude? (cs : List Char) : Option Nat :=
  (prefixed? cs).or (if isPaddedDigits cs then none else Text.numeral? 10 cs)

def unsigned? (cs : List Char) : Option Nat :=
  match cs with
  | '+' :: cs => magnitude? cs
  | cs => magnitude? cs

/-- The number that is not negative a scalar stands for. -/
def nat? (s : String) : Option Nat :=
  (unsigned? s.toList).filter (· ≤ maxNat)

/-- The number behind a minus sign. -/
def negative? (s : String) : Option Int :=
  match s.toList with
  | '-' :: cs => (magnitude? cs).map fun n => -(n : Int)
  | _ => none

/-- The number with a sign a scalar stands for. -/
def int? (s : String) : Option Int :=
  (((unsigned? s.toList).map Int.ofNat).or (negative? s)).filter inRange

/-! ## Other numbers -/

/-- Digits, a fraction and an exponent, each of which may be missing, as the number is written where
none of them may be empty.  None if there are no digits. -/
def decimal? (cs : List Char) : Option String := do
  let (whole, cs) := cs.span Char.isDigit
  let (fraction, cs) := match cs with
    | '.' :: cs => cs.span Char.isDigit
    | cs => ([], cs)
  if whole.isEmpty && fraction.isEmpty then none
  else
    let exponent ← match cs with
      | [] => some []
      | e :: cs =>
        if e == 'e' || e == 'E' then
          let (sign, digits) := match cs with
            | '+' :: ds => ([], ds)
            | '-' :: ds => (['-'], ds)
            | ds => ([], ds)
          if !digits.isEmpty && digits.all Char.isDigit then some ('e' :: (sign ++ digits))
          else none
        else none
    let orZero (ds : List Char) := if ds.isEmpty then ['0'] else ds
    return String.ofList
      (orZero (whole.dropWhile (· == '0')) ++ '.' :: (orZero fraction ++ exponent))

/-- The number that is not whole a scalar stands for, in decimal. -/
def real? (s : String) : Option String :=
  match s.toList with
  | '+' :: cs => decimal? cs
  | '-' :: cs => (decimal? cs).map ("-" ++ ·)
  | cs => decimal? cs

/-- The scalar stands for a number without bounds, or for no number at all. -/
def isUnbounded (s : String) : Bool :=
  [".inf", ".Inf", ".INF", "+.inf", "+.Inf", "+.INF", "-.inf", "-.Inf", "-.INF", ".nan", ".NaN",
    ".NAN"].contains s

end LogOperator.Yaml.Core
