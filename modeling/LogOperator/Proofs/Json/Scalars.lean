import LogOperator.Json.Reader
import LogOperator.Json.Writer
import LogOperator.Proofs.Text.Numerals
import Mathlib.Data.List.TakeDrop
import Mathlib.Data.List.TakeWhile
import Mathlib.Data.Option.Basic

/-!
# LogOperator.Proofs.Json.Scalars

Strings and numbers in JSON texts.

* `string?_escaped`: a string is read back as it was, whatever characters it has;
* `number?_append`: a number is read the same when something follows it that does not continue it;
* `number?_toDigits`, `number?_minus_toDigits`: the digits of a whole number are read as that number.
-/

namespace LogOperator.Json

open Text

variable {c : Char} {cs ds rest : List Char} {fuel : Nat}

/-! ## Strings -/

/-- Four digits, two of them zeros, are read as the code that they were written for. -/
theorem hex4?_hexDigit {n : Nat} (h : n < 256) (cs : List Char) :
    hex4? ('0' :: '0' :: hexDigit (n / 16) :: hexDigit (n % 16) :: cs) = some (n, cs) := by
  have hhigh := digitValue?_hexDigit (n := n / 16) (by omega)
  have hlow := digitValue?_hexDigit (n := n % 16) (by omega)
  have hzero : digitValue? '0' = some 0 := rfl
  have hsum : n / 16 * 16 + n % 16 = n := Nat.div_add_mod' n 16
  simp [hex4?, numeral?, numeralFrom?, digitBelow?, hzero, hhigh, hlow, Option.filter,
    Nat.mod_lt, show n / 16 < 16 by omega, hsum]

/-- A character is read back from the way in which it stands in a string. -/
theorem stringBody?_escapedChar (c : Char) (cs : List Char) (fuel : Nat) :
    stringBody? (fuel + 1) (escapedChar c ++ cs)
      = (stringBody? fuel cs).map fun r => (c :: r.1, r.2) := by
  unfold escapedChar
  split
  · subst_vars; simp [stringBody?, escape?]
  split
  · subst_vars; simp [stringBody?, escape?]
  split
  · subst_vars; simp [stringBody?, escape?]
  split
  · subst_vars; simp [stringBody?, escape?]
  split
  · subst_vars; simp [stringBody?, escape?]
  split
  · subst_vars; simp [stringBody?, escape?]
  split
  · subst_vars; simp [stringBody?, escape?]
  split
  · next hlow =>
    simp [stringBody?, escape?, hex4?_hexDigit (show c.toNat < 256 by omega),
      show c.toNat < 0xd800 by omega]
  · next hquote hslash _ _ _ _ _ hlow =>
    simp [stringBody?, hquote, hslash, hlow]

/-- **A text is read back from its escaped characters**, up to the closing quote. -/
theorem stringBody?_escaped (h : cs.length < fuel) :
    stringBody? fuel (cs.flatMap escapedChar ++ '"' :: rest) = some (cs, rest) := by
  induction cs generalizing fuel with
  | nil =>
      obtain ⟨fuel, rfl⟩ : ∃ n, fuel = n + 1 := ⟨fuel - 1, by simp at h; omega⟩
      simp [stringBody?]
  | cons c cs ih =>
      obtain ⟨fuel, rfl⟩ : ∃ n, fuel = n + 1 := ⟨fuel - 1, by simp at h; omega⟩
      rw [List.flatMap_cons, List.append_assoc, stringBody?_escapedChar,
        ih (Nat.lt_of_succ_lt_succ h)]
      rfl

/-- Escaping makes no text shorter. -/
theorem length_le_escaped (cs : List Char) : cs.length ≤ (cs.flatMap escapedChar).length := by
  induction cs with
  | nil => exact Nat.le_refl 0
  | cons c cs ih =>
      have hpos : 0 < (escapedChar c).length := by
        unfold escapedChar
        repeat' split
        all_goals exact Nat.zero_lt_succ _
      rw [List.flatMap_cons, List.length_append, List.length_cons]
      omega

/-- What stands between the quotes of a string is read back. -/
theorem string?_escaped (s : String) (rest : List Char) :
    string? (s.toList.flatMap escapedChar ++ '"' :: rest) = some (s, rest) := by
  have hfuel : s.toList.length < (s.toList.flatMap escapedChar ++ '"' :: rest).length + 1 := by
    have := length_le_escaped s.toList
    rw [List.length_append]
    omega
  rw [string?, stringBody?_escaped hfuel, Option.map_some, String.ofList_toList]

/-! ## Numbers -/

/-- What follows does not continue a number. -/
def Ends (rest : List Char) : Prop :=
  ∀ c ∈ rest.head?, c.isDigit = false ∧ c ≠ '.' ∧ c ≠ 'e' ∧ c ≠ 'E'

theorem ends_nil : Ends [] := nofun

/-- A number ends at what cannot be part of one. -/
theorem ends_cons (h : c.isDigit = false ∧ c ≠ '.' ∧ c ≠ 'e' ∧ c ≠ 'E') : Ends (c :: rest) := by
  intro d hd
  cases hd
  exact h

/-- Digits end where the number does, whatever follows. -/
theorem span_isDigit_append {cs : List Char} (h : Ends rest) : (cs ++ rest).span Char.isDigit
    = ((cs.span Char.isDigit).1, (cs.span Char.isDigit).2 ++ rest) := by
  simp only [List.span_eq_takeWhile_dropWhile]
  induction cs with
  | nil =>
      cases rest with
      | nil => rfl
      | cons c rest => simp [(h c rfl).1]
  | cons c cs ih =>
      simp only [Prod.mk.injEq] at ih
      cases hc : c.isDigit <;> simp [hc, ih.1, ih.2]

/-- So digits are read the same with more text behind them. -/
theorem digits?_append {r : List Char} (h : digits? cs = some (ds, r)) (hrest : Ends rest) :
    digits? (cs ++ rest) = some (ds, r ++ rest) := by
  unfold digits? at h ⊢
  rw [span_isDigit_append hrest]
  cases hspan : cs.span Char.isDigit with
  | mk ds' r' =>
      rw [hspan] at h
      cases ds' with
      | nil => contradiction
      | cons d ds' =>
          cases h
          rfl

theorem fraction?_append {r : List Char} (h : fraction? cs = some (ds, r)) (hrest : Ends rest) :
    fraction? (cs ++ rest) = some (ds, r ++ rest) := by
  unfold fraction? at h
  split at h
  · next cs =>
    obtain ⟨⟨ds', r'⟩, hdigits, heq⟩ := Option.map_eq_some_iff.1 h
    cases heq
    rw [List.cons_append, fraction?, digits?_append hdigits hrest]
    rfl
  · next hdot =>
    cases h
    have hdot : ∀ cs', cs ++ rest ≠ '.' :: cs' := by
      intro cs' heq
      cases cs with
      | nil =>
        rw [List.nil_append] at heq
        exact absurd rfl (hrest '.' (by rw [heq]; rfl)).2.1
      | cons c cs =>
        cases heq
        exact absurd rfl (hdot cs)
    unfold fraction?
    split
    · next heq => exact absurd heq (hdot _)
    · rfl

theorem exponent?_append {r : List Char} (h : exponent? cs = some (ds, r)) (hrest : Ends rest) :
    exponent? (cs ++ rest) = some (ds, r ++ rest) := by
  cases cs with
  | nil =>
      cases h
      cases rest with
      | nil => rfl
      | cons c rest =>
          obtain ⟨-, -, hlower, hupper⟩ := hrest c rfl
          rw [List.nil_append, exponent?.eq_def]
          exact if_neg (by simp [hlower, hupper])
  | cons e cs =>
      rw [exponent?.eq_def] at h
      rw [List.cons_append, exponent?.eq_def]
      dsimp only at h ⊢
      split at h
      · next he =>
        rw [if_pos he]
        cases cs with
        | nil => contradiction
        | cons sign ds' =>
            simp only [List.cons_append] at h ⊢
            split at h
            · next hsign =>
              obtain ⟨⟨ds'', r'⟩, hdigits, heq⟩ := Option.map_eq_some_iff.1 h
              cases heq
              rw [if_pos hsign, digits?_append hdigits hrest]
              rfl
            · next hsign =>
              obtain ⟨⟨ds'', r'⟩, hdigits, heq⟩ := Option.map_eq_some_iff.1 h
              cases heq
              rw [if_neg hsign, ← List.cons_append, digits?_append hdigits hrest]
              rfl
      · next he =>
        cases h
        rw [if_neg he]
        rfl

theorem sign_append (h : cs ≠ []) (rest : List Char) :
    sign (cs ++ rest) = ((sign cs).1, (sign cs).2 ++ rest) := by
  cases cs with
  | nil => contradiction
  | cons c cs =>
      by_cases hc : c = '-'
      · subst hc
        rfl
      · simp [sign, hc]

/-- A number is read as before when something follows that does not continue it. -/
theorem number?_append {j : Json} {r : List Char} (h : number? cs = some (j, r))
    (hrest : Ends rest) : number? (cs ++ rest) = some (j, r ++ rest) := by
  have hne : cs ≠ [] := by
    rintro rfl
    contradiction
  simp only [number?, Option.bind_eq_bind, Option.bind_eq_some_iff, Option.pure_def,
    Option.some.injEq, Prod.mk.injEq] at h
  obtain ⟨⟨whole, r₁⟩, hdigits, u, hguard, ⟨frac, r₂⟩, hfrac, ⟨exp, r₃⟩, hexp, n, hn, hj, rfl⟩ := h
  simp only [number?, sign_append hne, digits?_append hdigits hrest, hguard,
    fraction?_append hfrac hrest, exponent?_append hexp hrest, hn, hj, Option.bind_eq_bind,
    Option.bind_some, Option.pure_def]

/-- Digits alone are read to the end. -/
theorem digits?_eq (h : ∀ c ∈ ds, c.isDigit = true) (hne : ds ≠ []) :
    digits? ds = some (ds, []) := by
  rw [digits?, List.span_eq_takeWhile_dropWhile, List.takeWhile_eq_self_iff.2 h,
    List.dropWhile_eq_nil_iff.2 h]
  cases ds with
  | nil => exact absurd rfl hne
  | cons d ds => rfl

/-- The digits of a positive number do not start with a zero. -/
theorem head?_toDigits_ne {n : Nat} (h : 0 < n) : (Nat.toDigits 10 n).head? ≠ some '0' := by
  induction n using Nat.strongRecOn with
  | ind n ih =>
      by_cases hn : n < 10
      · rw [Nat.toDigits_of_lt_base hn, List.head?_cons]
        have hall : ∀ m ∈ List.range 10, 0 < m → some m.digitChar ≠ some '0' := by decide
        exact hall n (List.mem_range.2 hn) h
      · have hhead := ih (n / 10) (by omega) (by omega)
        rw [Nat.toDigits_of_base_le (by decide) (Nat.not_lt.1 hn), List.head?_append]
        cases hds : Nat.toDigits 10 (n / 10) with
        | nil => exact absurd hds Nat.toDigits_ne_nil
        | cons d ds =>
            rw [hds] at hhead
            exact hhead

/-- No number is written with a zero in front. -/
theorem leads_toDigits (n : Nat) : ((Nat.toDigits 10 n).length = 1 ||
    (Nat.toDigits 10 n).head? != some '0') = true := by
  rw [Bool.or_eq_true, decide_eq_true_iff, bne_iff_ne]
  rcases Nat.eq_zero_or_pos n with rfl | hpos
  · exact .inl rfl
  · exact .inr (head?_toDigits_ne hpos)

/-- A whole number is read from its sign and its digits. -/
theorem number?_of_sign {n : Nat} (h : sign cs = (ds, Nat.toDigits 10 n)) :
    number? cs = some (ofParts ds (Nat.toDigits 10 n) [] [] n, []) := by
  have hdigits := digits?_eq (isDigit_of_mem_toDigits (n := n)) Nat.toDigits_ne_nil
  have hguard : guard (((Nat.toDigits 10 n).length = 1 ||
      (Nat.toDigits 10 n).head? != some '0') = true) = some () := if_pos (leads_toDigits n)
  have hfrac : fraction? [] = some ([], []) := rfl
  have hexp : exponent? [] = some ([], []) := rfl
  simp only [number?, h, hdigits, hguard, hfrac, hexp, numeral?_toDigits, Option.bind_eq_bind,
    Option.bind_some, Option.pure_def]

/-- Decimal digits are read as the number that they were written for. -/
theorem number?_toDigits {n : Nat} (h : n < UInt64.size) :
    number? (Nat.toDigits 10 n) = some (.int n, []) := by
  have hsign : sign (Nat.toDigits 10 n) = ([], Nat.toDigits 10 n) := by
    cases hds : Nat.toDigits 10 n with
    | nil => rfl
    | cons d ds =>
        have hdigit := isDigit_of_mem_toDigits d (hds ▸ List.mem_cons_self)
        have hne : d ≠ '-' := by
          rintro rfl
          contradiction
        simp [sign, hne]
  rw [number?_of_sign hsign]
  simp [ofParts, h]

theorem number?_minus_toDigits {n : Nat} (hpos : 0 < n) (h : n ≤ 9223372036854775808) :
    number? ('-' :: Nat.toDigits 10 n) = some (.int (-n), []) := by
  have hsign : sign ('-' :: Nat.toDigits 10 n) = (['-'], Nat.toDigits 10 n) := rfl
  rw [number?_of_sign hsign]
  simp [ofParts, hpos, h]

/-- A number starts with a digit or a sign. -/
theorem number?_cons {r : Json × List Char} (h : number? (c :: cs) = some r) :
    c.isDigit = true ∨ c = '-' := by
  by_contra hc
  obtain ⟨hdigit, hminus⟩ := not_or.1 hc
  have hsign : sign (c :: cs) = ([], c :: cs) := by simp [sign, hminus]
  have hnone : digits? (c :: cs) = none := by
    simp [digits?, List.span_eq_takeWhile_dropWhile, hdigit]
  rw [number?, hsign, hnone] at h
  contradiction

end LogOperator.Json
