import LogOperator.Object.Shape
import Mathlib.Data.List.Induction

/-!
# LogOperator.Proofs.Object.Members

Values that are read from documents and written as documents.  A reader and a writer fit together
(`Restores`) when what was read is written as a document from which the same is read.

* `Restores.optional_self`, `Restores.optionalD_self`: a member of a written object is read back;
* `Restores.listOf`: so is a list;
* `Dict.ofList_entries`: and a map.
-/

namespace LogOperator

/-! ## Maps -/

namespace Dict

variable {κ ν : Type} [Ord κ]

/-- A key greater than all others is inserted at the end. -/
theorem insertEntry_of_forall_lt [Std.OrientedOrd κ] {k : κ} {v : ν} {es : List (κ × ν)}
    (h : ∀ e ∈ es, compare e.1 k = .lt) : insertEntry k v es = es ++ [(k, v)] := by
  induction es with
  | nil => rfl
  | cons e es ih =>
      obtain ⟨he, hes⟩ := List.forall_mem_cons.1 h
      rw [insertEntry, Std.OrientedCmp.gt_of_lt he, ih hes]
      rfl

variable [Std.TransOrd κ] [Std.LawfulEqOrd κ]

/-- Entries in increasing order are those of the map made of them. -/
theorem entries_ofList {es : List (κ × ν)} (h : es.Pairwise fun a b => compare a.1 b.1 = .lt) :
    (ofList es).entries = es := by
  induction es using List.reverseRecOn with
  | nil => rfl
  | append_singleton es e ih =>
      obtain ⟨hes, -, hlt⟩ := List.pairwise_append.1 h
      rw [ofList, List.foldl_append]
      change insertEntry e.1 e.2 (ofList es).entries = _
      rw [ih hes, insertEntry_of_forall_lt fun x hx => hlt x hx e List.mem_cons_self]

/-- A map made of a list has no other entries. -/
theorem mem_of_mem_ofList {es : List (κ × ν)} {x : κ × ν} (h : x ∈ (ofList es).entries) :
    x ∈ es := by
  induction es using List.reverseRecOn with
  | nil => exact h
  | append_singleton es e ih =>
      rw [ofList, List.foldl_append] at h
      rcases mem_insertEntry h with rfl | hes
      · exact List.mem_append_right es (List.mem_singleton_self _)
      · exact List.mem_append_left _ (ih hes)

/-- The entries of a map are those of that map. -/
theorem ofList_entries (d : Dict κ ν) : ofList d.entries = d := by
  obtain ⟨es, hsorted⟩ := d
  have hentries := entries_ofList hsorted
  cases hof : ofList es
  rw [hof] at hentries
  cases hentries
  rfl

end Dict

/-! ## Lists -/

/-- What is in the result was made of some item. -/
theorem exists_of_mapM {α β : Type} {f : α → Option β} {l : List α} {xs : List β}
    (h : l.mapM f = some xs) : ∀ x ∈ xs, ∃ a ∈ l, f a = some x := by
  induction l generalizing xs with
  | nil =>
      cases h
      exact fun x hx => absurd hx List.not_mem_nil
  | cons a l ih =>
      simp only [List.mapM_cons, Option.bind_eq_bind, Option.bind_eq_some_iff, Option.pure_def,
        Option.some.injEq] at h
      obtain ⟨y, hy, ys, hys, rfl⟩ := h
      refine List.forall_mem_cons.2 ⟨⟨a, List.mem_cons_self, hy⟩, fun x hx => ?_⟩
      obtain ⟨b, hb, hbx⟩ := ih hys x hx
      exact ⟨b, List.mem_cons_of_mem a hb, hbx⟩

/-- Items that are inverted one by one are inverted together. -/
theorem mapM_map_eq_some {α β : Type} {f : α → Option β} {g : β → α} {xs : List β}
    (h : ∀ x ∈ xs, f (g x) = some x) : (xs.map g).mapM f = some xs := by
  induction xs with
  | nil => rfl
  | cons x xs ih =>
      obtain ⟨hx, hxs⟩ := List.forall_mem_cons.1 h
      rw [List.map_cons, List.mapM_cons, hx, ih hxs]
      rfl

theorem mapM_eq_some {α : Type} {f : α → Option α} {xs : List α} (h : ∀ x ∈ xs, f x = some x) :
    xs.mapM f = some xs := by
  have hmap := mapM_map_eq_some (g := id) h
  rwa [List.map_id] at hmap

/-! ## Members -/

namespace Document

open Json

variable {β : Type} {read : Json → Option β} {write : β → Json} {name key : String} {j : Json}
  {ms rest : List (String × Json)} {fields : List (String × Option Json)}

theorem filter_eq_nil_of_not_mem (h : name ∉ ms.map (·.1)) : ms.filter (·.1 == name) = [] := by
  rw [List.filter_eq_nil_iff]
  intro m hm heq
  exact h (List.mem_map.2 ⟨m, hm, beq_iff_eq.1 heq⟩)

theorem optional_of_not_mem (h : name ∉ ms.map (·.1)) : optional read name ms = some none := by
  rw [optional, filter_eq_nil_of_not_mem h]
  rfl

theorem optional_cons_ne (h : key ≠ name) :
    optional read name ((key, j) :: ms) = optional read name ms := by
  rw [optional, optional, List.filter_cons_of_neg (by simpa using h)]

/-- Members behind that have other names do not count. -/
theorem optional_append (h : name ∉ rest.map (·.1)) :
    optional read name (ms ++ rest) = optional read name ms := by
  rw [optional, optional, List.filter_append, filter_eq_nil_of_not_mem h, List.append_nil]

theorem optional_append_left (h : name ∉ ms.map (·.1)) :
    optional read name (ms ++ rest) = optional read name rest := by
  rw [optional, optional, List.filter_append, filter_eq_nil_of_not_mem h, List.nil_append]

/-- The only member of a name is read. -/
theorem optional_cons_self (h : name ∉ ms.map (·.1)) :
    optional read name ((name, j) :: ms) = nullable? read j := by
  have hfilter : ((name, j) :: ms).filter (·.1 == name) = [(name, j)] := by
    rw [List.filter_cons_of_pos (by simp), filter_eq_nil_of_not_mem h]
  rw [optional, hfilter]
  cases hj : nullable? read j <;> simp [hj]

theorem nullable?_of_ne_null (h : j ≠ .null) : nullable? read j = (read j).map some := by
  cases j with
  | null => exact absurd rfl h
  | _ => exact Option.map_eq_bind.symm

theorem exists_of_nullable? {x : β} (h : nullable? read j = some (some x)) :
    j ≠ .null ∧ read j = some x := by
  have hnull : j ≠ .null := by
    rintro rfl
    cases h
  rw [nullable?_of_ne_null hnull, Option.map_eq_some_iff] at h
  obtain ⟨y, hy, heq⟩ := h
  cases heq
  exact ⟨hnull, hy⟩

/-- A member that is there was read from a value. -/
theorem exists_of_optional {x : β} (h : optional read name ms = some (some x)) :
    ∃ j, j ≠ .null ∧ read j = some x := by
  simp only [optional, Option.bind_eq_bind, Option.bind_eq_some_iff, Option.pure_def,
    Option.some.injEq] at h
  obtain ⟨vs, hvs, hlast⟩ := h
  have hmem : some x ∈ vs := by
    cases hv : vs.getLast? with
    | none =>
        rw [hv] at hlast
        cases hlast
    | some v =>
        rw [hv] at hlast
        cases hlast
        exact List.mem_of_getLast? hv
  obtain ⟨m, -, hm⟩ := exists_of_mapM hvs _ hmem
  exact ⟨m.2, exists_of_nullable? hm⟩

/-- A member with a default is the one that is there, or the default. -/
theorem exists_of_optionalD {x dflt : β} (h : optionalD read dflt name ms = some x) :
    ∃ v, optional read name ms = some v ∧ v.getD dflt = x :=
  Option.map_eq_some_iff.1 h

/-! ## Written members -/

@[simp] theorem members?_object (ms : List (String × Json)) : members? (Json.object ms) = some ms :=
  rfl

theorem present_cons_none : present ((name, none) :: fields) = present fields := rfl

theorem present_cons_some : present ((name, some j) :: fields) = (name, j) :: present fields := rfl

/-- Members that are there have no other names than the fields. -/
theorem not_mem_present (h : name ∉ fields.map (·.1)) : name ∉ (present fields).map (·.1) := by
  intro hmem
  obtain ⟨m, hm, rfl⟩ := List.mem_map.1 hmem
  obtain ⟨f, hf, hfm⟩ := List.mem_filterMap.1 hm
  obtain ⟨v, -, rfl⟩ := Option.map_eq_some_iff.1 hfm
  exact h (List.mem_map_of_mem hf)

@[simp] theorem optional_present_ne {v : Option Json} (h : key ≠ name) :
    optional read name (present ((key, v) :: fields)) = optional read name (present fields) := by
  cases v with
  | none => rfl
  | some j => exact optional_cons_ne h

/-- A written member is read back, whatever it holds, if each value it can hold is. -/
theorem optional_present_self {v : Option β}
    (hv : ∀ x ∈ v, write x ≠ .null ∧ read (write x) = some x) (hname : name ∉ fields.map (·.1)) :
    optional read name (present ((name, v.map write) :: fields)) = some v := by
  cases v with
  | none =>
      rw [Option.map_none, present_cons_none]
      exact optional_of_not_mem (not_mem_present hname)
  | some x =>
      obtain ⟨hnull, hx⟩ := hv x rfl
      rw [Option.map_some, present_cons_some, optional_cons_self (not_mem_present hname),
        nullable?_of_ne_null hnull, hx]
      rfl

/-- A whole number that was read in a range is read from itself. -/
theorem intIn?_int {lo hi n : Int} (h : intIn? lo hi j = some n) :
    intIn? lo hi (Json.int n) = some n :=
  Option.filter_eq_some_iff.2 ⟨rfl, (Option.filter_eq_some_iff.1 h).2⟩

/-- Every map of texts is read back. -/
theorem textMap?_textMap (d : TextMap) : textMap? (Json.textMap d) = some d := by
  have htexts : (d.entries.map fun e => (e.1, Json.text e.2)).mapM
      (fun m => (text? m.2).map (m.1, ·)) = some d.entries := mapM_map_eq_some fun _ _ => rfl
  have hmembers : members? (Json.textMap d) = some (d.entries.map fun e => (e.1, .text e.2)) := rfl
  rw [textMap?, hmembers]
  simp only [Option.bind_eq_bind, Option.bind_some, htexts, Dict.ofList_entries, Option.pure_def]

/-- A written text is read back from among other members. -/
theorem optional_text_present {v : Option String} (hname : name ∉ fields.map (·.1)) :
    optional text? name (present ((name, v.map .text) :: fields)) = some v :=
  optional_present_self (fun _ _ => ⟨Json.noConfusion, rfl⟩) hname

/-- So is a map of texts. -/
theorem optional_textMap_present {v : Option TextMap} (hname : name ∉ fields.map (·.1)) :
    optional textMap? name (present ((name, v.map .textMap) :: fields)) = some v :=
  optional_present_self (fun d _ => ⟨Json.noConfusion, textMap?_textMap d⟩) hname

/-- What is read from a document is written as a document from which the same is read. -/
structure Restores (read : Json → Option β) (write : β → Json) : Prop where
  read_write {j : Json} {x : β} : read j = some x → read (write x) = some x
  ne_null (x : β) : write x ≠ .null

namespace Restores

/-- A member that was read is read back from the written members. -/
theorem optional_self (h : Restores read write) {v : Option β}
    (hread : Document.optional read name ms = some v) (hname : name ∉ fields.map (·.1)) :
    Document.optional read name (present ((name, v.map write) :: fields)) = some v := by
  refine optional_present_self (fun x hx => ?_) hname
  cases hx
  obtain ⟨j, -, hj⟩ := exists_of_optional hread
  exact ⟨h.ne_null x, h.read_write hj⟩

/-- So is one that has a default, which is then written. -/
theorem optionalD_self (h : Restores read write) {x dflt : β}
    (hread : Document.optionalD read dflt name ms = some x) (hdflt : read (write dflt) = some dflt)
    (hname : name ∉ fields.map (·.1)) :
    Document.optional read name (present ((name, some (write x)) :: fields)) = some (some x) := by
  have hx : read (write x) = some x := by
    obtain ⟨v, hv, rfl⟩ := exists_of_optionalD hread
    cases v with
    | none => exact hdflt
    | some y =>
        obtain ⟨j, -, hj⟩ := exists_of_optional hv
        exact h.read_write hj
  refine optional_present_self (v := some x) (fun y hy => ?_) hname
  cases hy
  exact ⟨h.ne_null x, hx⟩

theorem text : Restores text? .text where
  read_write _ := rfl
  ne_null _ := Json.noConfusion

theorem flag : Restores bool? .bool where
  read_write _ := rfl
  ne_null _ := Json.noConfusion

theorem int32 : Restores Shape.int32? .int where
  read_write h := intIn?_int h
  ne_null _ := Json.noConfusion

theorem textMap : Restores textMap? .textMap where
  read_write _ := textMap?_textMap _
  ne_null _ := Json.noConfusion

/-- What reads and writes items reads and writes lists of them. -/
theorem listOf (h : Restores read write) : Restores (listOf? read) fun xs => .list (xs.map write) where
  read_write {j xs} hread := by
    obtain ⟨js, -, hjs⟩ := Option.bind_eq_some_iff.1 hread
    refine mapM_map_eq_some fun x hx => ?_
    obtain ⟨i, -, hi⟩ := exists_of_mapM hjs x hx
    exact h.read_write hi
  ne_null _ := Json.noConfusion

theorem texts : Restores (Document.listOf? text?) .texts :=
  text.listOf

end Restores

end Document

end LogOperator
