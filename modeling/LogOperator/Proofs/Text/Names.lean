import LogOperator.Text.Class

/-!
# LogOperator.Proofs.Text.Names

The name classes of a pipeline, said without the tests: labels and subdomains of RFC 1123, and tokens.
Each test succeeds exactly on its class:

* `isLabel_iff` — labels;
* `isDnsSubdomain_iff` — labels joined by dots;
* `isToken_iff` — tokens.
-/

namespace LogOperator.Text

variable {s : String} {cs : List Char} {c sep : Char}

/-! ## Characters of names -/

theorem isLower_iff : c.isLower = true ↔ 'a' ≤ c ∧ c ≤ 'z' := by
  change (decide ('a' ≤ c) && decide (c ≤ 'z')) = true ↔ _
  rw [Bool.and_eq_true, decide_eq_true_iff, decide_eq_true_iff]

theorem isUpper_iff : c.isUpper = true ↔ 'A' ≤ c ∧ c ≤ 'Z' :=
  decide_eq_true_iff

theorem isDigit_iff : c.isDigit = true ↔ '0' ≤ c ∧ c ≤ '9' := by
  change (decide ('0' ≤ c) && decide (c ≤ '9')) = true ↔ _
  rw [Bool.and_eq_true, decide_eq_true_iff, decide_eq_true_iff]

theorem isAlphanum_iff : c.isAlphanum = true ↔
    'A' ≤ c ∧ c ≤ 'Z' ∨ 'a' ≤ c ∧ c ≤ 'z' ∨ '0' ≤ c ∧ c ≤ '9' := by
  change ((c.isUpper || c.isLower) || c.isDigit) = true ↔ _
  rw [Bool.or_eq_true, Bool.or_eq_true, isUpper_iff, isLower_iff, isDigit_iff, or_assoc]

/-! ## Labels -/

/-- A label of RFC 1123: lower-case letters, digits and hyphens, at most 63 of them, the first and the
last of which is no hyphen. -/
structure Label (cs : List Char) : Prop where
  ne_nil : cs ≠ []
  length_le : cs.length ≤ 63
  chars : ∀ c ∈ cs, 'a' ≤ c ∧ c ≤ 'z' ∨ '0' ≤ c ∧ c ≤ '9' ∨ c = '-'
  head : cs.head? ≠ some '-'
  last : cs.getLast? ≠ some '-'

theorem isLabelChar_iff :
    isLabelChar c = true ↔ 'a' ≤ c ∧ c ≤ 'z' ∨ '0' ≤ c ∧ c ≤ '9' ∨ c = '-' := by
  rw [isLabelChar, Bool.or_eq_true, Bool.or_eq_true, isLower_iff, isDigit_iff, beq_iff_eq, or_assoc]

theorem all_ne_iff {o : Option Char} : o.all (· != c) = true ↔ o ≠ some c := by
  cases o <;> simp

/-- The check of a label and its description say the same. -/
theorem isLabel_iff : isLabel cs = true ↔ Label cs := by
  simp only [isLabel, Bool.and_eq_true, Bool.not_eq_true', List.isEmpty_eq_false_iff,
    decide_eq_true_eq, List.all_eq_true, isLabelChar_iff, all_ne_iff]
  constructor
  · rintro ⟨⟨⟨⟨hne, hlength⟩, hchars⟩, hhead⟩, hlast⟩
    exact ⟨hne, hlength, hchars, hhead, hlast⟩
  · exact fun h => ⟨⟨⟨⟨h.ne_nil, h.length_le⟩, h.chars⟩, h.head⟩, h.last⟩

theorem isDnsLabel_iff : isDnsLabel s = true ↔ Label s.toList :=
  isLabel_iff

/-- A label has no dot in it. -/
theorem Label.dot_not_mem (h : Label cs) : '.' ∉ cs :=
  fun hmem => absurd (h.chars _ hmem) (by decide)

/-! ## Subdomains -/

/-- A subdomain of RFC 1123: labels joined by dots, of at most 253 bytes. -/
def Subdomain (s : String) : Prop :=
  s.utf8ByteSize ≤ 253 ∧
    ∃ labels, labels ≠ [] ∧ (∀ l ∈ labels, Label l) ∧ s.toList = ['.'].intercalate labels

/-- A text of ASCII characters takes a byte for each. -/
theorem utf8ByteSize_ofList_of_ascii (h : ∀ c ∈ cs, c.toNat < 128) :
    (String.ofList cs).utf8ByteSize = cs.length := by
  induction cs with
  | nil => rfl
  | cons c cs ih =>
      obtain ⟨hc, hcs⟩ := List.forall_mem_cons.1 h
      have hsize : c.utf8Size = 1 :=
        Char.utf8Size_eq_one_iff.2 (UInt32.le_iff_toNat_le.2 (Nat.le_of_lt_succ hc))
      simp [String.ofList_cons, ih hcs, hsize, Nat.add_comm]

/-- A single label is a subdomain. -/
theorem Label.subdomain (h : Label s.toList) : Subdomain s := by
  have hascii : ∀ c ∈ s.toList, c.toNat < 128 := by
    intro c hc
    rcases h.chars c hc with hc | hc | rfl
    · exact Nat.lt_of_le_of_lt hc.2 (by decide)
    · exact Nat.lt_of_le_of_lt hc.2 (by decide)
    · decide
  have hsize := utf8ByteSize_ofList_of_ascii hascii
  rw [String.ofList_toList] at hsize
  have hlength := h.length_le
  exact ⟨by omega, [s.toList], by simp, by simpa using h, by simp⟩

/-- A text is taken apart as lists are. -/
theorem splitAt_eq_splitOn (sep : Char) (cs : List Char) : splitAt sep cs = cs.splitOn sep := by
  induction cs with
  | nil => rfl
  | cons c cs ih =>
      rw [splitAt, List.splitOn_cons_eq_if_modifyHead, ← ih]
      by_cases hc : c = sep
      · rw [if_pos hc, if_pos (beq_iff_eq.2 hc)]
      · rw [if_neg hc, if_neg (by simpa using hc)]
        cases hparts : splitAt sep cs with
        | nil => exact absurd hparts (splitAt_ne_nil sep cs)
        | cons part parts => rfl

/-- A subdomain consists of labels with dots between them. -/
theorem isDnsSubdomain_iff : isDnsSubdomain s = true ↔ Subdomain s := by
  rw [isDnsSubdomain, splitAt_eq_splitOn, Bool.and_eq_true, decide_eq_true_eq, List.all_eq_true,
    Subdomain]
  refine and_congr_right fun _ => ?_
  constructor
  · intro h
    exact ⟨_, List.splitOn_ne_nil _ _, fun l hl => isLabel_iff.1 (h l hl),
      (List.intercalate_splitOn '.').symm⟩
  · rintro ⟨labels, hne, hlabels, htext⟩ l hl
    rw [htext, List.splitOn_intercalate '.' (fun l hl => (hlabels l hl).dot_not_mem) hne] at hl
    exact isLabel_iff.2 (hlabels l hl)

/-! ## Tokens -/

/-- A token: ASCII letters and digits, underscores, hyphens and dots, at least one of them. -/
structure Token (s : String) : Prop where
  ne_empty : s ≠ ""
  chars : ∀ c ∈ s.toList, 'A' ≤ c ∧ c ≤ 'Z' ∨ 'a' ≤ c ∧ c ≤ 'z' ∨ '0' ≤ c ∧ c ≤ '9' ∨
    c = '_' ∨ c = '-' ∨ c = '.'

theorem isTokenChar_iff : isTokenChar c = true ↔ 'A' ≤ c ∧ c ≤ 'Z' ∨ 'a' ≤ c ∧ c ≤ 'z' ∨
    '0' ≤ c ∧ c ≤ '9' ∨ c = '_' ∨ c = '-' ∨ c = '.' := by
  simp only [isTokenChar, Bool.or_eq_true, isAlphanum_iff, beq_iff_eq, or_assoc]

/-- Token characters are among the ASCII characters that are shown. -/
theorem toNat_of_isTokenChar (h : isTokenChar c = true) : ' '.toNat < c.toNat ∧ c.toNat < 0x7f := by
  rcases isTokenChar_iff.1 h with h | h | h | rfl | rfl | rfl
  · exact ⟨Nat.lt_of_lt_of_le (by decide) h.1, Nat.lt_of_le_of_lt h.2 (by decide)⟩
  · exact ⟨Nat.lt_of_lt_of_le (by decide) h.1, Nat.lt_of_le_of_lt h.2 (by decide)⟩
  · exact ⟨Nat.lt_of_lt_of_le (by decide) h.1, Nat.lt_of_le_of_lt h.2 (by decide)⟩
  all_goals decide

theorem isTokenChar_of_mem_token (h : isToken s = true) (hc : c ∈ s.toList) :
    isTokenChar c = true :=
  List.all_eq_true.1 (Bool.and_eq_true_iff.1 h).2 c hc

/-- What is no token character is in no token. -/
theorem not_mem_of_isToken (h : isToken s = true) (hc : isTokenChar c = false) : c ∉ s.toList :=
  fun hmem => Bool.false_ne_true (hc.symm.trans (isTokenChar_of_mem_token h hmem))

/-- A token has characters, and all of them are token characters. -/
theorem isToken_iff : isToken s = true ↔ Token s := by
  simp only [isToken, Bool.and_eq_true, Bool.not_eq_true', List.isEmpty_eq_false_iff,
    List.all_eq_true, isTokenChar_iff]
  constructor
  · rintro ⟨hne, hchars⟩
    exact ⟨by simpa using hne, hchars⟩
  · exact fun h => ⟨by simpa using h.ne_empty, h.chars⟩

/-! ## Characters of a text -/

theorem hasControl_eq_false_iff : hasControl s = false ↔ ∀ c ∈ s.toList, isControl c = false := by
  simp [hasControl]

theorem isAllBlank_eq_false_iff : isAllBlank s = false ↔ ∃ c ∈ s.toList, isBlank c = false := by
  simp [isAllBlank]

theorem hasBlankOrControl_eq_false_iff : hasBlankOrControl s = false ↔
    ∀ c ∈ s.toList, isBlank c = false ∧ isControl c = false := by
  simp [hasBlankOrControl]

theorem hasBlankOrControl_of_isToken (h : isToken s = true) : hasBlankOrControl s = false := by
  refine hasBlankOrControl_eq_false_iff.2 fun c hc => ?_
  obtain ⟨hlow, hhigh⟩ := toNat_of_isTokenChar (isTokenChar_of_mem_token h hc)
  rw [show ' '.toNat = 0x20 from rfl] at hlow
  simp [isBlank, isControl]
  omega

end LogOperator.Text
