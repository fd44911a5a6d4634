/-!
# LogOperator.Proofs.Text.Wildcard

Patterns with stars.  A star stands for any run of characters of a class, which is empty or not, and
every other character stands for itself:

* `anyAfter_iff`, `fits_star_iff` — what a star can stand for;
* `fits_append_iff` — what a pattern says before its first star;
* `fits_stars` — stars at the end of a pattern let any text follow.
-/

namespace LogOperator.Text

variable {free : Char → Bool} {test : List Char → Bool} {ps qs cs : List Char}

/-- Some rest of the text passes the test, after a run of characters of the class. -/
def anyAfter (free : Char → Bool) (test : List Char → Bool) : List Char → Bool
  | [] => test []
  | c :: cs => test (c :: cs) || (free c && anyAfter free test cs)

/-- The text fits the pattern, whose stars stand for characters of the class. -/
def fits (free : Char → Bool) : List Char → List Char → Bool
  | [], cs => cs.isEmpty
  | p :: ps, cs =>
    if p = '*' then anyAfter free (fits free ps) cs
    else cs.head? == some p && fits free ps cs.tail

/-- A test is met after some free characters. -/
theorem anyAfter_iff : anyAfter free test cs = true ↔
    ∃ run rest, cs = run ++ rest ∧ (∀ c ∈ run, free c = true) ∧ test rest = true := by
  induction cs with
  | nil =>
      refine ⟨fun h => ⟨[], [], rfl, nofun, h⟩, ?_⟩
      rintro ⟨run, rest, h, -, htest⟩
      obtain ⟨rfl, rfl⟩ := List.append_eq_nil_iff.1 h.symm
      exact htest
  | cons c cs ih =>
      rw [anyAfter, Bool.or_eq_true, Bool.and_eq_true, ih]
      constructor
      · rintro (htest | ⟨hc, run, rest, rfl, hrun, htest⟩)
        · exact ⟨[], c :: cs, rfl, nofun, htest⟩
        · exact ⟨c :: run, rest, rfl, List.forall_mem_cons.2 ⟨hc, hrun⟩, htest⟩
      · rintro ⟨run, rest, h, hrun, htest⟩
        cases run with
        | nil => exact .inl (by rw [h]; exact htest)
        | cons d run =>
            obtain ⟨rfl, rfl⟩ := List.cons.inj h
            obtain ⟨hd, hrun⟩ := List.forall_mem_cons.1 hrun
            exact .inr ⟨hd, run, rest, rfl, hrun, htest⟩

/-- What a star in front of a pattern lets through. -/
theorem fits_star_iff : fits free ('*' :: ps) cs = true ↔
    ∃ run rest, cs = run ++ rest ∧ (∀ c ∈ run, free c = true) ∧ fits free ps rest = true := by
  rw [fits, if_pos rfl]
  exact anyAfter_iff

/-- A star at the end lets all characters of the class follow. -/
theorem fits_star_end : fits free ['*'] cs = true ↔ ∀ c ∈ cs, free c = true := by
  rw [fits_star_iff]
  constructor
  · rintro ⟨run, rest, rfl, hrun, hrest⟩
    rw [List.isEmpty_iff.1 hrest, List.append_nil]
    exact hrun
  · exact fun h => ⟨cs, [], (List.append_nil cs).symm, h, rfl⟩

/-- **What stands before the first star stands in front of the text.** -/
theorem fits_append_iff (h : '*' ∉ ps) :
    fits free (ps ++ qs) cs = true ↔ ∃ rest, cs = ps ++ rest ∧ fits free qs rest = true := by
  induction ps generalizing cs with
  | nil => simp
  | cons p ps ih =>
      have hp : p ≠ '*' := fun heq => h (heq ▸ List.mem_cons_self)
      rw [List.cons_append, fits, if_neg hp]
      rw [Bool.and_eq_true, beq_iff_eq, ih (List.not_mem_of_not_mem_cons h)]
      cases cs with
      | nil => simp
      | cons c cs =>
          simp only [List.head?_cons, Option.some.injEq, List.tail_cons, List.cons_append,
            List.cons.injEq]
          constructor
          · rintro ⟨rfl, rest, rfl, hrest⟩
            exact ⟨rest, ⟨rfl, rfl⟩, hrest⟩
          · rintro ⟨rest, ⟨rfl, rfl⟩, hrest⟩
            exact ⟨rfl, rest, rfl, hrest⟩

/-- **Where a star stands for any text, stars fit every text.** -/
theorem fits_stars (n : Nat) (cs : List Char) :
    fits (fun _ => true) (List.replicate (n + 1) '*') cs = true := by
  induction n generalizing cs with
  | zero => exact anyAfter_iff.2 ⟨cs, [], (List.append_nil cs).symm, fun _ _ => rfl, rfl⟩
  | succ n ih => exact anyAfter_iff.2 ⟨[], cs, rfl, nofun, ih cs⟩

end LogOperator.Text
