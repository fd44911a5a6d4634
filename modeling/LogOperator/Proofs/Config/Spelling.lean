import LogOperator.Proofs.Config.Reading
import Mathlib.Data.List.Forall2

/-!
# LogOperator.Proofs.Config.Spelling

The classic format as a reader knows it, who does not count how wide a section is.  A section is spelled
by a header in brackets and a line for each entry, with a key behind the indentation and a value that
starts in the same column as all others, where some value stands right behind its key.  An empty line
stands between neighbouring sections.

* `spells_iff` — sections with plain keys are spelled by the text that they are rendered as, and by no
  other;
* `render_spells_only` — that text spells no other sections, whatever their values look like.
-/

namespace LogOperator.Section

open Text

variable {s : Section} {ss : List Section} {e : String × String} {w column : Nat}
  {line text : String} {ls : List String}

/-! ## The format -/

/-- The line has the key of an entry behind the indentation, and its value from a column on.  Columns are
counted in bytes, and at least one space stands in front of the value. -/
def Places (column : Nat) (e : String × String) (line : String) : Prop :=
  ∃ gap, 0 < gap ∧ 4 + e.1.utf8ByteSize + gap = column ∧
    line = "    " ++ e.1 ++ String.ofList (List.replicate gap ' ') ++ e.2

/-- The lines are a header and the entries of a section with their values in one column, which some key
leaves no further space to. -/
def SpelledBy (s : Section) (ls : List String) : Prop :=
  ∃ column body, ls = ("[" ++ s.header ++ "]") :: body ∧ List.Forall₂ (Places column) s.entries body ∧
    (s.entries ≠ [] → ∃ e ∈ s.entries, 4 + e.1.utf8ByteSize + 1 = column)

/-- The text is made of sections, with an empty line between neighbours. -/
def Spells (text : String) (ss : List Section) : Prop :=
  ∃ blocks : List (List String), text = joinWith "\n" (blocks.map unlines) ∧
    List.Forall₂ SpelledBy ss blocks

/-- The key is an ASCII word. -/
structure IsKey (key : String) : Prop where
  ne_empty : key ≠ ""
  ascii : ∀ c ∈ key.toList, c.toNat < 128
  blank : ' ' ∉ key.toList
  oneLine : OneLine key

/-- The header is of one line and ends at the first bracket that closes it, the keys are ASCII words, and
the values are of one line. -/
structure Plain (s : Section) : Prop where
  header_ne : s.header ≠ ""
  bracket : ']' ∉ s.header.toList
  header : OneLine s.header
  keys : ∀ key ∈ s.keys, IsKey key
  values : ∀ value ∈ s.values, OneLine value

instance (key : String) : Decidable (IsKey key) :=
  -- Only the characters of the key are gone through, not all that there are.
  haveI : Decidable (∀ c ∈ key.toList, c.toNat < 128) := List.decidableBAll _ _
  decidable_of_iff (key ≠ "" ∧ (∀ c ∈ key.toList, c.toNat < 128) ∧ ' ' ∉ key.toList ∧ OneLine key)
    ⟨fun ⟨hne, hascii, hblank, hline⟩ => ⟨hne, hascii, hblank, hline⟩,
      fun h => ⟨h.ne_empty, h.ascii, h.blank, h.oneLine⟩⟩

instance (s : Section) : Decidable s.Plain :=
  decidable_of_iff (s.header ≠ "" ∧ ']' ∉ s.header.toList ∧ OneLine s.header ∧
      (∀ key ∈ s.keys, IsKey key) ∧ ∀ value ∈ s.values, OneLine value)
    ⟨fun ⟨hne, hbracket, hline, hkeys, hvalues⟩ => ⟨hne, hbracket, hline, hkeys, hvalues⟩,
      fun h => ⟨h.header_ne, h.bracket, h.header, h.keys, h.values⟩⟩

/-- A plain section can be read back. -/
theorem Plain.legible (h : s.Plain) : s.Legible :=
  ⟨h.header, fun key hkey => ⟨(h.keys key hkey).oneLine, (h.keys key hkey).blank⟩, h.values⟩

/-! ## An entry -/

/-- A key is as long in bytes as it is in characters. -/
theorem IsKey.utf8ByteSize_eq {key : String} (h : IsKey key) : key.utf8ByteSize = key.length := by
  rw [← String.ofList_toList (s := key), Text.utf8ByteSize_ofList_of_ascii h.ascii,
    String.ofList_toList, String.length_toList]

/-- A line of a section is what its entry is written as, if the section is that wide. -/
theorem places_iff (h : IsKey e.1) :
    Places (w + 5) e line ↔ e.1.length ≤ w ∧ line = entryLine w e := by
  have hgap {n : Nat} : String.ofList (List.replicate (n + 1) ' ')
      = String.ofList (List.replicate n ' ') ++ " " := by
    rw [List.replicate_succ', String.ofList_append]
  rw [Places, h.utf8ByteSize_eq]
  constructor
  · rintro ⟨gap, hpos, hcolumn, rfl⟩
    obtain ⟨n, rfl⟩ := Nat.exists_eq_add_of_lt hpos
    have hn : n = w - e.1.length := by omega
    refine ⟨by omega, ?_⟩
    rw [Nat.zero_add, hgap, hn, entryLine, padRight]
    simp only [String.append_assoc]
  · rintro ⟨hle, rfl⟩
    refine ⟨w - e.1.length + 1, Nat.succ_pos _, by omega, ?_⟩
    rw [hgap, entryLine, padRight]
    simp only [String.append_assoc]

/-! ## A section -/

/-- Every entry of a plain section has a key. -/
theorem Plain.isKey (h : s.Plain) (he : e ∈ s.entries) : IsKey e.1 :=
  h.keys e.1 (List.mem_map.2 ⟨e, he, rfl⟩)

/-- Some key is as long as the section is wide. -/
theorem exists_length_eq_width (h : s.entries ≠ []) : ∃ e ∈ s.entries, e.1.length = s.width := by
  have hne : s.entries.map (fun e => e.1.length) ≠ [] := by simpa using h
  obtain ⟨n, hn⟩ := Option.ne_none_iff_exists'.1 (mt List.max?_eq_none_iff.1 hne)
  obtain ⟨e, he, hlength⟩ := List.mem_map.1 (List.max?_mem hn)
  refine ⟨e, he, ?_⟩
  rw [width, List.foldl_max, hn, Option.getD_some, Nat.zero_max, hlength]

/-- No column but one behind the longest key is that of the values. -/
theorem forall₂_places_iff {es : List (String × String)} {body : List String}
    (h : ∀ e ∈ es, IsKey e.1) : List.Forall₂ (Places (w + 5)) es body ↔
      (∀ e ∈ es, e.1.length ≤ w) ∧ body = es.map (entryLine w) := by
  induction es generalizing body with
  | nil => simp
  | cons e es ih =>
      obtain ⟨he, hes⟩ := List.forall_mem_cons.1 h
      simp only [List.forall₂_cons_left_iff, places_iff he, ih hes, List.forall_mem_cons,
        List.map_cons]
      grind

/-- **A section is spelled by its lines**, and by no others. -/
theorem spelledBy_iff (h : s.Plain) : s.SpelledBy ls ↔ ls = s.lines := by
  have hkeys : ∀ e ∈ s.entries, IsKey e.1 := fun e => h.isKey
  constructor
  · rintro ⟨column, body, rfl, hbody, htight⟩
    by_cases hne : s.entries = []
    · rw [hne, List.forall₂_nil_left_iff] at hbody
      rw [lines, hne, hbody, List.map_nil]
    · obtain ⟨e, he, rfl⟩ := htight hne
      have hcolumn : 4 + e.1.utf8ByteSize + 1 = e.1.length + 5 := by
        rw [(h.isKey he).utf8ByteSize_eq]
        omega
      rw [hcolumn, forall₂_places_iff hkeys] at hbody
      obtain ⟨e', he', hlength⟩ := exists_length_eq_width hne
      have hwidth : e.1.length = s.width :=
        Nat.le_antisymm (length_le_width he) (hlength ▸ hbody.1 e' he')
      rw [hbody.2, hwidth, lines]
  · rintro rfl
    refine ⟨s.width + 5, _, rfl,
      (forall₂_places_iff hkeys).2 ⟨fun e => length_le_width, rfl⟩, fun hne => ?_⟩
    obtain ⟨e, he, hlength⟩ := exists_length_eq_width hne
    refine ⟨e, he, ?_⟩
    rw [(h.isKey he).utf8ByteSize_eq, hlength]
    omega

/-! ## A text -/

/-- Blocks spell plain sections exactly if they are the lines of these sections. -/
theorem forall₂_spelledBy_iff {blocks : List (List String)} (h : ∀ s ∈ ss, s.Plain) :
    List.Forall₂ SpelledBy ss blocks ↔ blocks = ss.map lines := by
  induction ss generalizing blocks with
  | nil => simp
  | cons s ss ih =>
      obtain ⟨hs, hss⟩ := List.forall_mem_cons.1 h
      simp only [List.forall₂_cons_left_iff, spelledBy_iff hs, ih hss, List.map_cons]
      grind

/-- **Sections are spelled by their text**, and by no other. -/
theorem spells_iff (h : ∀ s ∈ ss, s.Plain) : Spells text ss ↔ text = render ss := by
  simp only [Spells, forall₂_spelledBy_iff h, exists_eq_right, joinWith_map_unlines]
  rfl

/-- **A rendered text spells the sections it was rendered from, and no others.**  Headers, keys and values
may be any texts of the format: a value may begin or end with spaces, look like a header or an entry, or
be empty, and a section may have no entries.  All sections are read back from the text, in order, each
with its header and with its keys and values in order. -/
theorem render_spells_only (h : ∀ s ∈ ss, s.Plain) :
    Spells (render ss) ss ∧ readAll (render ss) = ss ∧
    ∀ ss', (∀ s ∈ ss', s.Plain) → Spells (render ss) ss' → ss' = ss := by
  have hread {ss : List Section} (h : ∀ s ∈ ss, s.Plain) : readAll (render ss) = ss :=
    readAll_render fun s hs => (h s hs).legible
  refine ⟨(spells_iff h).2 rfl, hread h, fun ss' h' hspells => ?_⟩
  rw [← hread h', ← (spells_iff h').1 hspells, hread h]

/-- Sections with values that look like a header, an entry and an empty line, and one without entries. -/
def misleading : List Section :=
  [⟨"INPUT", [("Name", "[OUTPUT]"), ("Path_Key", "    Match *"), ("Tag", "  "), ("Parser", "")]⟩,
   ⟨"FILTER", []⟩]

/-- Values that look like headers and entries do not keep a section from being plain. -/
theorem plain_misleading : ∀ s ∈ misleading, s.Plain := by
  decide

/-- They are read back, and the section that a value looks like is not among them. -/
theorem render_spells_only_misleading :
    (∀ s ∈ misleading, s.Plain) ∧ readAll (render misleading) = misleading ∧
    ¬ Spells (render misleading) [⟨"INPUT", []⟩, ⟨"OUTPUT", [("Match", "*")]⟩, ⟨"FILTER", []⟩] := by
  obtain ⟨-, hread, honly⟩ := render_spells_only plain_misleading
  refine ⟨plain_misleading, hread, fun h => ?_⟩
  exact absurd (honly _ (by decide) h) (by decide)

/-- A value of several lines could be mistaken. -/
example : render [⟨"INPUT", [("Tag", "a\n\n[FILTER]")]⟩]
    = render [⟨"INPUT", [("Tag", "a")]⟩, ⟨"FILTER", []⟩] := by
  decide +kernel

end LogOperator.Section
