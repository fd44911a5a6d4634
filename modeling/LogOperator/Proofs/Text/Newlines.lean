import LogOperator.Proofs.Text.Lines
import LogOperator.Text.Quoted
import Mathlib.Tactic.SplitIfs

/-!
# LogOperator.Proofs.Text.Newlines

Texts split at every newline.  `splitLines` keeps an empty part at the end, so that a text has one part
more than it has newlines:

* `length_splitLines` — the parts of a text, counted;
* `splitLines_joinWith` — the parts of joined texts are those of the texts, in order;
* `oneLine_quoted`, `oneLine_repr` — quoted texts and numbers have no newline.
-/

namespace LogOperator.Text

variable {s t : String} {ls : List String}

/-- The parts of a text between its newlines. -/
def splitLines (s : String) : List String :=
  (s.toList.splitOn '\n').map String.ofList

/-- How many newlines a text has. -/
def newlines (s : String) : Nat :=
  s.toList.count '\n'

theorem newlines_append (s t : String) : newlines (s ++ t) = newlines s + newlines t := by
  rw [newlines, String.toList_append, List.count_append, newlines, newlines]

theorem newlines_eq_zero_iff : newlines s = 0 ↔ OneLine s :=
  List.count_eq_zero

theorem newlines_of_oneLine (h : OneLine s) : newlines s = 0 :=
  newlines_eq_zero_iff.2 h

theorem newlines_append_oneLine (h : OneLine t) : newlines (s ++ t) = newlines s := by
  rw [newlines_append, newlines_of_oneLine h, Nat.add_zero]

/-- Text around another text adds no newlines, if it has none. -/
theorem newlines_between {before after : String} (hbefore : OneLine before) (hafter : OneLine after) :
    newlines (before ++ s ++ after) = newlines s := by
  rw [newlines_append_oneLine hafter, newlines_append, newlines_of_oneLine hbefore, Nat.zero_add]

/-- Known text, by its characters. -/
theorem oneLine_ofList {cs : List Char} (h : '\n' ∉ cs) : OneLine (String.ofList cs) := by
  rw [OneLine, String.toList_ofList]
  exact h

theorem length_splitOn {α : Type} [DecidableEq α] (a : α) (xs : List α) :
    (xs.splitOn a).length = xs.count a + 1 := by
  induction xs with
  | nil => rfl
  | cons x xs ih =>
      rw [List.splitOn_cons_eq_if_modifyHead, List.count_cons]
      split
      · rw [List.length_cons, ih]
      · rw [List.length_modifyHead, ih]

/-- A text has one line more than it has newlines. -/
theorem length_splitLines (s : String) : (splitLines s).length = newlines s + 1 := by
  rw [splitLines, List.length_map, length_splitOn]
  rfl

theorem splitLines_of_oneLine (h : OneLine s) : splitLines s = [s] := by
  rw [splitLines, List.splitOn_eq_singleton h, List.map_singleton, String.ofList_toList]

/-- Lines are split where the newline stands. -/
theorem splitLines_append (s t : String) :
    splitLines (s ++ "\n" ++ t) = splitLines s ++ splitLines t := by
  have hchars : (s ++ "\n" ++ t).toList = s.toList ++ '\n' :: t.toList := by
    simp [String.toList_append]
  rw [splitLines, hchars, List.splitOn_append_cons_self, List.map_append]
  rfl

/-- **The lines of joined texts** are those of the texts, one after the other. -/
theorem splitLines_joinWith (hne : ls ≠ []) :
    splitLines (joinWith "\n" ls) = ls.flatMap splitLines := by
  induction ls with
  | nil => contradiction
  | cons l ls ih =>
      cases ls with
      | nil => simp [joinWith]
      | cons m ls => rw [joinWith, splitLines_append, ih (List.cons_ne_nil m ls), ← List.flatMap_cons]

/-! ## Quoted text -/

/-- What holds of every digit holds of the digits of a number. -/
theorem forall_mem_toDigits {b : Nat} {P : Char → Prop} (hb : 1 < b) (h : ∀ d < b, P d.digitChar)
    (n : Nat) : ∀ c ∈ Nat.toDigits b n, P c := by
  induction n using Nat.strongRecOn with
  | ind n ih =>
      rw [Nat.toDigits_eq_if hb]
      split
      · next hlt => exact List.forall_mem_singleton.2 (h n hlt)
      · next hge =>
          have hpos : 0 < n := by omega
          refine List.forall_mem_append.2 ⟨ih _ (Nat.div_lt_self hpos hb), ?_⟩
          exact List.forall_mem_singleton.2 (h _ (Nat.mod_lt n (by omega)))

/-- A newline that is quoted is written with an escape. -/
theorem newline_not_mem_quotedChar (c : Char) : '\n' ∉ quotedChar c := by
  unfold quotedChar
  split_ifs with _ _ hnewline
  all_goals try decide
  · have hdigits : ∀ d ∈ Nat.toDigits 16 c.toNat, d ≠ '\n' :=
      forall_mem_toDigits (by decide) (by decide) _
    simp only [List.mem_cons, List.mem_append, List.not_mem_nil, or_false, not_or]
    exact ⟨by decide, by decide, by decide, fun h => hdigits _ h rfl, by decide⟩
  · rw [List.mem_singleton]
    exact Ne.symm hnewline

/-- **Quoted text is one line**, whatever is quoted. -/
theorem oneLine_quoted (s : String) : OneLine (quoted s) := by
  rw [OneLine, quoted, String.toList_ofList]
  simp only [List.mem_cons, List.mem_append, List.mem_flatMap, List.not_mem_nil, or_false, not_or]
  refine ⟨by decide, fun h => ?_, by decide⟩
  obtain ⟨c, -, hc⟩ := h
  exact newline_not_mem_quotedChar c hc

/-- Quoted text has no newline to add to the text around it. -/
theorem newlines_around_quoted {before after : String} (hbefore : OneLine before)
    (hafter : OneLine after) (s : String) : newlines (before ++ quoted s ++ after) = 0 :=
  (newlines_between hbefore hafter).trans (newlines_of_oneLine (oneLine_quoted s))

theorem oneLine_repr (n : Nat) : OneLine (Nat.repr n) := by
  rw [OneLine, Nat.toList_repr]
  exact fun h => forall_mem_toDigits (P := (· ≠ '\n')) (by decide) (by decide) n _ h rfl

end LogOperator.Text
