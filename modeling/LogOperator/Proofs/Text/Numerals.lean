import LogOperator.Proofs.Text.Names
import LogOperator.Text.Numeral

/-!
# LogOperator.Proofs.Text.Numerals

Decimal digits and the numbers that they stand for.

* `numeral?_eq`: digits stand for a number;
* `numeral?_toDigits`: the digits of a number stand for that number, also after zeros
  (`numeral?_zeros_toDigits`).
-/

namespace LogOperator.Text

variable {c : Char} {ds : List Char}

theorem digitBelow?_of_isDigit (h : c.isDigit = true) :
    digitBelow? 10 c = some (c.toNat - '0'.toNat) := by
  have hrange := isDigit_iff.1 h
  have hsmall : c.toNat - '0'.toNat < 10 := by
    have hupper : c.toNat ≤ '9'.toNat := hrange.2
    have hzero : '0'.toNat = 48 := rfl
    have hnine : '9'.toNat = 57 := rfl
    omega
  rw [digitBelow?, digitValue?, if_pos hrange, Option.filter_some_pos (by simpa using hsmall)]

/-- Decimal digits are read from left to right. -/
theorem numeralFrom?_eq (h : ∀ c ∈ ds, c.isDigit = true) (n : Nat) :
    numeralFrom? 10 n ds = some (Nat.ofDigitChars 10 ds n) := by
  induction ds generalizing n with
  | nil => rw [numeralFrom?, Nat.ofDigitChars_nil]
  | cons d ds ih =>
      obtain ⟨hd, hds⟩ := List.forall_mem_cons.1 h
      rw [numeralFrom?, digitBelow?_of_isDigit hd, Option.bind_some, ih hds,
        Nat.ofDigitChars_cons, Nat.mul_comm]

/-- The number that digits stand for. -/
theorem numeral?_eq (h : ∀ c ∈ ds, c.isDigit = true) (hne : ds ≠ []) :
    numeral? 10 ds = some (Nat.ofDigitChars 10 ds 0) := by
  cases ds with
  | nil => exact absurd rfl hne
  | cons d ds => exact numeralFrom?_eq h 0

theorem isDigit_of_mem_toDigits {n : Nat} : ∀ c ∈ Nat.toDigits 10 n, c.isDigit = true :=
  fun _ hc => Nat.isDigit_of_mem_toDigits (by decide) (by decide) hc

theorem not_mem_toDigits (h : c.isDigit = false) (n : Nat) : c ∉ Nat.toDigits 10 n := by
  intro hmem
  rw [isDigit_of_mem_toDigits c hmem] at h
  contradiction

/-- The digits of a whole number stand for it. -/
theorem numeral?_toDigits (n : Nat) : numeral? 10 (Nat.toDigits 10 n) = some n := by
  rw [numeral?_eq isDigit_of_mem_toDigits Nat.toDigits_ne_nil, Nat.ofDigitChars_ten_toDigits]

/-- Numbers with the same digits are the same. -/
theorem toDigits_inj {m n : Nat} (h : Nat.toDigits 10 m = Nat.toDigits 10 n) : m = n := by
  have hnumeral := congrArg (numeral? 10) h
  rw [numeral?_toDigits, numeral?_toDigits] at hnumeral
  exact Option.some.inj hnumeral

theorem isDigit_of_mem_zeros_toDigits {k n : Nat} :
    ∀ c ∈ List.replicate k '0' ++ Nat.toDigits 10 n, c.isDigit = true := by
  intro c hc
  rcases List.mem_append.1 hc with hzero | hdigit
  · rw [List.eq_of_mem_replicate hzero]
    rfl
  · exact isDigit_of_mem_toDigits c hdigit

/-- Zeros in front of the digits of a number change nothing. -/
theorem numeral?_zeros_toDigits (k n : Nat) :
    numeral? 10 (List.replicate k '0' ++ Nat.toDigits 10 n) = some n := by
  rw [numeral?_eq isDigit_of_mem_zeros_toDigits
      (List.append_ne_nil_of_right_ne_nil _ Nat.toDigits_ne_nil),
    Nat.ofDigitChars_append, Nat.ofDigitChars_replicate_zero, Nat.mul_zero,
    Nat.ofDigitChars_ten_toDigits]

end LogOperator.Text
