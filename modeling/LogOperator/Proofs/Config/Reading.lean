import LogOperator.Config.Section
import LogOperator.Proofs.Text.Lines

/-!
# LogOperator.Proofs.Config.Reading

Rendered sections, read back.  A text is split into blocks of lines; the first line of a block is a
header, and every other one has a key, up to the first space after the indentation, and a value.  Where
the values of a block start follows from its keys, so spaces at either end of a value are kept apart
from those that align it:

* `ofLines_lines` — a section from its lines;
* `readAll_render` — the sections of a text.
-/

namespace LogOperator.Section

open Text

variable {s : Section} {ss : List Section} {key value : String} {w : Nat}

/-! ## Keys and values -/

/-- The keys of a section, in order. -/
def keys (s : Section) : List String :=
  s.entries.map (·.1)

/-- The values of a section, in order. -/
def values (s : Section) : List String :=
  s.entries.map (·.2)

/-- The value of the first entry with the given key. -/
def value? (s : Section) (key : String) : Option String :=
  s.entries.lookup key

/-- Header, keys and values are of one line, and no key has a space in it. -/
structure Legible (s : Section) : Prop where
  header : OneLine s.header
  keys : ∀ key ∈ s.keys, OneLine key ∧ ' ' ∉ key.toList
  values : ∀ value ∈ s.values, OneLine value

/-! ## Reading -/

/-- The key of an entry's line. -/
def keyOf (line : String) : String :=
  String.ofList ((line.toList.drop 4).takeWhile (· ≠ ' '))

/-- The section that a block of lines stands for. -/
def ofLines : List String → Section
  | [] => ⟨"", []⟩
  | header :: entries =>
    let width := (entries.map fun line => (keyOf line).length).foldl max 0
    ⟨String.ofList (header.toList.drop 1).dropLast,
      entries.map fun line => (keyOf line, String.ofList (line.toList.drop (width + 5)))⟩

/-- The sections that a text stands for. -/
def readAll (text : String) : List Section :=
  (blocks (Text.lines text)).map ofLines

/-! ## An entry -/

theorem toList_entryLine (w : Nat) (key value : String) : (entryLine w (key, value)).toList =
    "    ".toList ++ (key.toList ++ (List.replicate (w - key.length) ' ' ++ ' ' :: value.toList)) := by
  simp [entryLine, padRight, String.toList_append]

theorem drop_indentation (cs : List Char) : ("    ".toList ++ cs).drop 4 = cs :=
  List.drop_left' (by decide)

/-- The key ends at the first space, be it for the alignment or in front of the value. -/
theorem keyOf_entryLine (h : ' ' ∉ key.toList) : keyOf (entryLine w (key, value)) = key := by
  have hkey : ∀ c ∈ key.toList, decide (c ≠ ' ') = true := by
    intro c hc
    rw [decide_eq_true_eq]
    rintro rfl
    exact h hc
  have hrest : (List.replicate (w - key.length) ' ' ++ ' ' :: value.toList).takeWhile (· ≠ ' ')
      = [] := by
    cases w - key.length <;> rfl
  rw [keyOf, toList_entryLine, drop_indentation, List.takeWhile_append_of_pos hkey, hrest,
    List.append_nil, String.ofList_toList]

/-- The value starts one space after the longest key. -/
theorem drop_entryLine (h : key.length ≤ w) :
    (entryLine w (key, value)).toList.drop (w + 5) = value.toList := by
  have hsplit : (entryLine w (key, value)).toList =
      ("    ".toList ++ key.toList ++ List.replicate (w - key.length) ' ' ++ [' '])
        ++ value.toList := by
    rw [toList_entryLine]
    simp
  rw [hsplit]
  refine List.drop_left' ?_
  simp only [List.length_append, String.length_toList, List.length_replicate, List.length_singleton]
  have hindent : ("    " : String).length = 4 := by decide
  omega

/-- No key is longer than the section is wide. -/
theorem length_le_width {e : String × String} (h : e ∈ s.entries) : e.1.length ≤ s.width := by
  rw [width, List.foldl_max, Nat.zero_max]
  exact List.le_max?_getD_of_mem (List.mem_map.2 ⟨e, h, rfl⟩)

/-! ## A section -/

/-- The header of a section is what stands between its brackets. -/
theorem header_lines (s : Section) :
    String.ofList ((("[" ++ s.header ++ "]").toList.drop 1).dropLast) = s.header := by
  simp [String.toList_append]

/-- **A section, read back from its lines.** -/
theorem ofLines_lines (h : s.Legible) : ofLines s.lines = s := by
  have hkey : ∀ e ∈ s.entries, keyOf (entryLine s.width e) = e.1 := fun e he =>
    keyOf_entryLine (h.keys e.1 (List.mem_map.2 ⟨e, he, rfl⟩)).2
  have hlengths : (s.entries.map (entryLine s.width)).map (fun line => (keyOf line).length)
      = s.entries.map fun e => e.1.length := by
    rw [List.map_map]
    refine List.map_congr_left fun e he => ?_
    rw [Function.comp_apply, hkey e he]
  have hentry : ∀ e ∈ s.entries, (keyOf (entryLine s.width e),
      String.ofList ((entryLine s.width e).toList.drop (s.width + 5))) = e := by
    intro e he
    rw [hkey e he, drop_entryLine (length_le_width he), String.ofList_toList]
  have hentries : (s.entries.map (entryLine s.width)).map (fun line =>
      (keyOf line, String.ofList (line.toList.drop (s.width + 5)))) = s.entries := by
    rw [List.map_map]
    exact (List.map_congr_left hentry).trans (List.map_id _)
  rw [lines, ofLines, header_lines, hlengths, ← width, hentries]

/-- The lines of a legible section have no line ends in them. -/
theorem oneLine_of_mem_lines (h : s.Legible) : ∀ l ∈ s.lines, OneLine l := by
  have hfixed : OneLine "[" ∧ OneLine "]" ∧ OneLine "    " ∧ OneLine " " := by decide
  obtain ⟨hopen, hclose, hindent, hblank⟩ := hfixed
  refine List.forall_mem_cons.2 ⟨(hopen.append h.header).append hclose, ?_⟩
  refine List.forall_mem_map.2 fun e he => ?_
  have hkey : OneLine e.1 := (h.keys e.1 (List.mem_map.2 ⟨e, he, rfl⟩)).1
  have hvalue : OneLine e.2 := h.values e.2 (List.mem_map.2 ⟨e, he, rfl⟩)
  exact ((hindent.append (hkey.padRight _)).append hblank).append hvalue

/-- A header starts with a bracket and an entry with a space, so no line is empty. -/
theorem empty_not_mem_lines (s : Section) : "" ∉ s.lines := by
  intro h
  rcases List.mem_cons.1 h with h | h
  · have hchars := congrArg String.toList h
    simp [String.toList_append] at hchars
  · obtain ⟨e, -, he⟩ := List.mem_map.1 h
    have hchars := congrArg String.toList he
    rw [toList_entryLine] at hchars
    simp at hchars

/-! ## A text -/

/-- The lines of a text of sections. -/
theorem lines_render (h : ∀ s ∈ ss, s.Legible) :
    Text.lines (render ss) = spaced (ss.map lines) :=
  lines_unlines (oneLine_of_mem_spaced (List.forall_mem_map.2 fun s hs => oneLine_of_mem_lines (h s hs)))

/-- The blocks of a text of sections. -/
theorem blocks_render (h : ∀ s ∈ ss, s.Legible) :
    blocks (Text.lines (render ss)) = ss.map lines := by
  rw [lines_render h]
  exact blocks_spaced (List.forall_mem_map.2 fun s _ => ⟨List.cons_ne_nil _ _, s.empty_not_mem_lines⟩)

/-- **Sections, read back from their text.** -/
theorem readAll_render (h : ∀ s ∈ ss, s.Legible) : readAll (render ss) = ss := by
  rw [readAll, blocks_render h, List.map_map]
  exact (List.map_congr_left fun s hs => ofLines_lines (h s hs)).trans (List.map_id ss)

end LogOperator.Section
