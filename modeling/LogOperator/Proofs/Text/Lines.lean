import LogOperator.Proofs.Text.Names
import LogOperator.Text.Lines

/-!
# LogOperator.Proofs.Text.Lines

Texts made of lines, read back.  `lines` splits a text at its newlines and `blocks` splits lines at the
empty ones; both undo what is written, as long as a line has no newline in it (`OneLine`) and a block
has no empty line in it:

* `lines_unlines` — the lines of a text of lines;
* `blocks_spaced` — the blocks of spaced lines;
* `oneLine_of_hasControl`, `oneLine_of_isToken`, `oneLine_of_isDnsSubdomain` — the texts of a pipeline
  that are of one line.
-/

namespace LogOperator.Text

variable {s t : String} {ls : List String} {bs : List (List String)}

/-! ## Texts of one line -/

/-- The text has no newline in it. -/
def OneLine (s : String) : Prop :=
  '\n' ∉ s.toList

instance (s : String) : Decidable (OneLine s) :=
  inferInstanceAs (Decidable ('\n' ∉ s.toList))

theorem OneLine.append (hs : OneLine s) (ht : OneLine t) : OneLine (s ++ t) := by
  rw [OneLine, String.toList_append, List.mem_append]
  exact fun h => h.elim hs ht

theorem OneLine.padRight (hs : OneLine s) (width : Nat) : OneLine (padRight width s) := by
  refine hs.append ?_
  rw [OneLine, String.toList_ofList]
  exact fun h => absurd (List.eq_of_mem_replicate h) (by decide)

theorem oneLine_of_hasControl (h : hasControl s = false) : OneLine s := by
  intro hmem
  have hnot := List.any_eq_false.1 h '\n' hmem
  exact hnot isControl_newline

theorem oneLine_of_hasBlankOrControl (h : hasBlankOrControl s = false) : OneLine s := by
  intro hmem
  have hnot := List.any_eq_false.1 h '\n' hmem
  exact hnot (by decide)

/-- A token is a single line. -/
theorem oneLine_of_isToken (h : isToken s = true) : OneLine s :=
  not_mem_of_isToken h (by decide)

/-- The characters of a label are those of tokens. -/
theorem isTokenChar_of_mem_label {c : Char} {cs : List Char} (h : isLabel cs = true) (hc : c ∈ cs) :
    isTokenChar c = true := by
  rw [isTokenChar_iff]
  rcases (isLabel_iff.1 h).chars c hc with hlower | hdigit | hhyphen
  · exact .inr (.inl hlower)
  · exact .inr (.inr (.inl hdigit))
  · exact .inr (.inr (.inr (.inr (.inl hhyphen))))

theorem isToken_of_isDnsLabel (h : isDnsLabel s = true) : isToken s = true := by
  have hlabel := h
  simp only [isDnsLabel, isLabel, Bool.and_eq_true] at hlabel
  rw [isToken, hlabel.1.1.1.1, Bool.true_and]
  exact List.all_eq_true.2 fun c hc => isTokenChar_of_mem_label h hc

/-- A character is the separator or in one of the parts. -/
theorem mem_splitAt {sep c : Char} {cs : List Char} (h : c ∈ cs) :
    c = sep ∨ ∃ part ∈ splitAt sep cs, c ∈ part := by
  induction cs with
  | nil => contradiction
  | cons d cs ih =>
      rw [splitAt]
      by_cases hd : d = sep
      · rw [if_pos hd]
        rcases List.mem_cons.1 h with rfl | h
        · exact .inl hd
        · refine (ih h).imp_right fun hpart => ?_
          obtain ⟨part, hpart, hc⟩ := hpart
          exact ⟨part, List.mem_cons_of_mem _ hpart, hc⟩
      · rw [if_neg hd]
        cases hparts : splitAt sep cs with
        | nil => exact absurd hparts (splitAt_ne_nil sep cs)
        | cons first parts =>
            rw [hparts] at ih
            rcases List.mem_cons.1 h with rfl | h
            · exact .inr ⟨_, List.mem_cons_self, List.mem_cons_self⟩
            · refine (ih h).imp_right fun hpart => ?_
              obtain ⟨part, hpart, hc⟩ := hpart
              rcases List.mem_cons.1 hpart with rfl | hpart
              · exact ⟨_, List.mem_cons_self, List.mem_cons_of_mem d hc⟩
              · exact ⟨part, List.mem_cons_of_mem _ hpart, hc⟩

/-- The characters of a subdomain are those of tokens. -/
theorem isTokenChar_of_mem_subdomain {c : Char} (h : isDnsSubdomain s = true) (hc : c ∈ s.toList) :
    isTokenChar c = true := by
  have hparts := List.all_eq_true.1 (Bool.and_eq_true_iff.1 h).2
  have hsplit : c = '.' ∨ ∃ part ∈ splitAt '.' s.toList, c ∈ part := mem_splitAt hc
  rcases hsplit with rfl | ⟨part, hpart, hc⟩
  · decide
  · exact isTokenChar_of_mem_label (hparts part hpart) hc

/-- A subdomain is a single line. -/
theorem oneLine_of_isDnsSubdomain (h : isDnsSubdomain s = true) : OneLine s :=
  fun hmem => absurd (isTokenChar_of_mem_subdomain h hmem) (by decide)

/-! ## Lines -/

/-- The lines of a text: its parts between newlines, but for an empty one at the end. -/
def lines (s : String) : List String :=
  let parts := (s.toList.splitOn '\n').map String.ofList
  if parts.getLast? = some "" then parts.dropLast else parts

/-- **A text of lines, read back.** -/
theorem lines_unlines (h : ∀ l ∈ ls, OneLine l) : lines (unlines ls) = ls := by
  have hparts : (((unlines ls).toList).splitOn '\n').map String.ofList = ls ++ [""] := by
    rw [toList_unlines]
    induction ls with
    | nil => rfl
    | cons l ls ih =>
        obtain ⟨hl, hls⟩ := List.forall_mem_cons.1 h
        rw [List.flatMap_cons, List.append_assoc, List.singleton_append,
          List.splitOn_append_cons_self_of_not_mem hl, List.map_cons, String.ofList_toList, ih hls,
          List.cons_append]
  rw [lines, hparts, List.getLast?_concat, if_pos rfl, List.dropLast_concat]

/-! ## Blocks -/

/-- The runs of lines between empty ones. -/
def blocks (ls : List String) : List (List String) :=
  (ls.splitOn "").filter (· ≠ [])

/-- **Spaced blocks, read back.** -/
theorem blocks_spaced (h : ∀ b ∈ bs, b ≠ [] ∧ "" ∉ b) : blocks (spaced bs) = bs := by
  induction bs with
  | nil => rfl
  | cons b bs ih =>
      obtain ⟨⟨hne, hb⟩, hbs⟩ := List.forall_mem_cons.1 h
      cases bs with
      | nil => simp [blocks, spaced, List.splitOn_eq_singleton hb, hne]
      | cons c bs =>
          have hrest : ((spaced (c :: bs)).splitOn "").filter (· ≠ []) = c :: bs := ih hbs
          rw [blocks, spaced, List.splitOn_append_cons_self_of_not_mem hb,
            List.filter_cons_of_pos (by simpa using hne), hrest]

/-- A line of spaced blocks is empty or in one of the blocks. -/
theorem of_mem_spaced (h : s ∈ spaced bs) : s = "" ∨ ∃ b ∈ bs, s ∈ b := by
  induction bs with
  | nil => contradiction
  | cons b bs ih =>
      cases bs with
      | nil => exact .inr ⟨b, List.mem_cons_self, h⟩
      | cons c bs =>
          rw [spaced, List.mem_append, List.mem_cons] at h
          rcases h with h | h | h
          · exact .inr ⟨b, List.mem_cons_self, h⟩
          · exact .inl h
          · refine (ih h).imp_right fun hblock => ?_
            obtain ⟨d, hd, hs⟩ := hblock
            exact ⟨d, List.mem_cons_of_mem b hd, hs⟩

/-- What is read off the lines of spaced blocks, where empty lines say nothing. -/
theorem filterMap_spaced {α : Type} {f : String → Option α} (h : f "" = none) :
    (spaced bs).filterMap f = bs.flatMap (·.filterMap f) := by
  induction bs with
  | nil => rfl
  | cons b bs ih =>
      cases bs with
      | nil => simp [spaced]
      | cons c bs =>
          rw [spaced, List.filterMap_append, List.filterMap_cons_none h, ih]
          rfl

/-- The lines of spaced blocks that a test picks, if it does not pick empty ones. -/
theorem filter_spaced {f : String → Bool} (h : f "" = false) :
    (spaced bs).filter f = bs.flatMap (·.filter f) := by
  have hnone : Option.guard f "" = none := by simp [Option.guard, h]
  simpa only [List.filterMap_eq_filter] using filterMap_spaced hnone

/-- What each line of spaced blocks is taken for. -/
theorem map_spaced {α : Type} (f : String → α) (bs : List (List String)) :
    (spaced bs).map f = [f ""].intercalate (bs.map (List.map f)) := by
  induction bs with
  | nil => rfl
  | cons b bs ih =>
      cases bs with
      | nil => simp [spaced]
      | cons c bs =>
          rw [spaced, List.map_append, List.map_cons, ih]
          simp only [List.map_cons, List.intercalate_cons_cons, List.append_assoc,
            List.singleton_append]

theorem oneLine_of_mem_spaced (h : ∀ b ∈ bs, ∀ l ∈ b, OneLine l) : ∀ l ∈ spaced bs, OneLine l := by
  intro l hl
  rcases of_mem_spaced hl with rfl | ⟨b, hb, hl⟩
  · exact List.not_mem_nil
  · exact h b hb l hl

/-! ## Separators -/

/-- The part in front of the first separator. -/
theorem append_cons_inj_of_not_mem_left {α : Type} {xs xs' ys ys' : List α} {a : α} (hx : a ∉ xs)
    (hx' : a ∉ xs') (h : xs ++ a :: ys = xs' ++ a :: ys') : xs = xs' ∧ ys = ys' := by
  induction xs generalizing xs' with
  | nil =>
      cases xs' with
      | nil => exact ⟨rfl, (List.cons.inj h).2⟩
      | cons x' xs' =>
          have hhead : a = x' := (List.cons.inj h).1
          exact absurd (hhead ▸ List.mem_cons_self) hx'
  | cons x xs ih =>
      cases xs' with
      | nil =>
          have hhead : x = a := (List.cons.inj h).1
          exact absurd (hhead ▸ List.mem_cons_self) hx
      | cons x' xs' =>
          obtain ⟨rfl, htail⟩ := List.cons.inj h
          obtain ⟨rfl, hrest⟩ := ih (List.not_mem_of_not_mem_cons hx)
            (List.not_mem_of_not_mem_cons hx') htail
          exact ⟨rfl, hrest⟩

end LogOperator.Text
