/-!
# LogOperator.Text.Numeral

Whole numbers as digits of a radix up to sixteen.
-/

namespace LogOperator.Text

/-- The value of a digit; letters of either case continue after nine. -/
def digitValue? (c : Char) : Option Nat :=
  if '0' ≤ c ∧ c ≤ '9' then some (c.toNat - '0'.toNat)
  else if 'a' ≤ c ∧ c ≤ 'f' then some (c.toNat - 'a'.toNat + 10)
  else if 'A' ≤ c ∧ c ≤ 'F' then some (c.toNat - 'A'.toNat + 10)
  else none

/-- The value of a digit below the radix. -/
def digitBelow? (radix : Nat) (c : Char) : Option Nat :=
  (digitValue? c).filter (· < radix)

/-- The number that digits continue, the most significant one first. -/
def numeralFrom? (radix : Nat) (n : Nat) : List Char → Option Nat
  | [] => some n
  | c :: cs => (digitBelow? radix c).bind fun d => numeralFrom? radix (n * radix + d) cs

/-- The number that a non-empty run of digits stands for. -/
def numeral? (radix : Nat) : List Char → Option Nat
  | [] => none
  | c :: cs => numeralFrom? radix 0 (c :: cs)

/-- A hexadecimal digit in lower case, of a value below sixteen. -/
def hexDigit (n : Nat) : Char :=
  if n < 10 then Char.ofNat ('0'.toNat + n) else Char.ofNat ('a'.toNat + (n - 10))

/-- The value of a hexadecimal digit is the number that it was written for. -/
theorem digitValue?_hexDigit {n : Nat} (h : n < 16) : digitValue? (hexDigit n) = some n := by
  have all : ∀ m ∈ List.range 16, digitValue? (hexDigit m) = some m := by decide
  exact all n (List.mem_range.mpr h)

/-- A number in lower-case hexadecimal without leading zeros. -/
def hex (n : Nat) : String :=
  String.ofList (Nat.toDigits 16 n)

end LogOperator.Text
