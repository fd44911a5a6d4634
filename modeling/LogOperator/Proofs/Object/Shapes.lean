import LogOperator.Proofs.Object.Instants
import LogOperator.Proofs.Object.Members

/-!
# LogOperator.Proofs.Object.Shapes

What shapes make of documents.  A shape reads what it made of a document as itself, as long as the names
of the members differ at every level (`Shape.isProper`).

* `read?_read`: values;
* `readMembers?_read`: members;
* `readMembers?_written`, `optional_written`: members of shapes after other members.
-/

namespace LogOperator

namespace Shape

open Document

variable {s : Shape} {shapes : List (String × Bool × Shape)} {j j' : Json} {name : String}
  {ms ms' rest : List (String × Json)}

/-! ## Members of shapes -/

/-- The member that a shape makes of what was found under its name. -/
def kept (name : String) (always : Bool) (s : Shape) : Option Json → List (String × Json)
  | some j => [(name, j)]
  | none => if always then [(name, s.blank)] else []

/-- What is kept of a member has the member's name. -/
theorem key_of_mem_kept {always : Bool} {found : Option Json} {m : String × Json}
    (h : m ∈ kept name always s found) : m.1 = name := by
  cases found with
  | some j => rw [List.mem_singleton.1 h]
  | none =>
      cases always with
      | true => rw [List.mem_singleton.1 h]
      | false => exact absurd h List.not_mem_nil

/-- The blank members of several shapes are those of each. -/
theorem blankMembers_cons (name : String) (always : Bool) (s : Shape)
    (shapes : List (String × Bool × Shape)) :
    blankMembers ((name, always, s) :: shapes) = kept name always s none ++ blankMembers shapes := by
  cases always <;> rfl

/-- Members are read shape by shape. -/
theorem readMembers?_cons {always : Bool} {found : Option Json}
    (hfound : optional (read? s) name ms = some found) (hrest : readMembers? shapes ms = some rest) :
    readMembers? ((name, always, s) :: shapes) ms = some (kept name always s found ++ rest) := by
  rw [readMembers?, hfound, hrest]
  cases found with
  | some j => rfl
  | none => cases always <;> rfl

/-- What was read shape by shape consists of what was read of each. -/
theorem exists_of_readMembers? {always : Bool}
    (h : readMembers? ((name, always, s) :: shapes) ms = some ms') :
    ∃ found rest, optional (read? s) name ms = some found ∧ readMembers? shapes ms = some rest ∧
      ms' = kept name always s found ++ rest := by
  have hbind := h
  simp only [readMembers?, Option.bind_eq_bind, Option.bind_eq_some_iff] at hbind
  obtain ⟨found, hfound, rest, hrest, -⟩ := hbind
  rw [readMembers?_cons hfound hrest, Option.some.injEq] at h
  exact ⟨found, rest, hfound, hrest, h.symm⟩

/-- A member that a shape reads has the name of a shape. -/
theorem not_mem_of_readMembers? (h : readMembers? shapes ms = some rest)
    (hname : name ∉ shapes.map (·.1)) : name ∉ rest.map (·.1) := by
  induction shapes generalizing rest with
  | nil =>
      cases h
      exact List.not_mem_nil
  | cons sh shapes ih =>
      obtain ⟨key, always, s⟩ := sh
      obtain ⟨hkey, hshapes⟩ := not_or.1 (List.mem_cons.not.1 hname)
      obtain ⟨found, rest, -, hrest, rfl⟩ := exists_of_readMembers? h
      rw [List.map_append, List.mem_append]
      rintro (hmem | hmem)
      · obtain ⟨m, hm, rfl⟩ := List.mem_map.1 hmem
        exact hkey (key_of_mem_kept hm)
      · exact ih hrest hshapes hmem

/-- Members of other names are not looked at. -/
theorem readMembers?_append (h : ∀ key ∈ shapes.map (·.1), key ∉ ms.map (·.1)) :
    readMembers? shapes (ms ++ rest) = readMembers? shapes rest := by
  induction shapes with
  | nil => rfl
  | cons sh shapes ih =>
      obtain ⟨key, always, s⟩ := sh
      obtain ⟨hkey, hshapes⟩ := List.forall_mem_cons.1 h
      rw [readMembers?, readMembers?, optional_append_left hkey, ih hshapes]

/-- **What a shape kept is kept again**, in front of what the other shapes kept. -/
theorem readMembers?_kept {always : Bool} {found : Option Json} (hname : name ∉ shapes.map (·.1))
    (habsent : name ∉ rest.map (·.1)) (hrest : readMembers? shapes rest = some rest)
    (hblank : read? s s.blank = some s.blank)
    (hfound : ∀ j, found = some j → j ≠ .null ∧ read? s j = some j) :
    readMembers? ((name, always, s) :: shapes) (kept name always s found ++ rest)
      = some (kept name always s found ++ rest) := by
  have hothers : readMembers? shapes (kept name always s found ++ rest) = some rest := by
    rw [readMembers?_append, hrest]
    intro key hkey hmem
    obtain ⟨m, hm, rfl⟩ := List.mem_map.1 hmem
    rw [key_of_mem_kept hm] at hkey
    exact hname hkey
  have hself {j : Json} : optional (read? s) name ([(name, j)] ++ rest) = nullable? (read? s) j :=
    optional_cons_self habsent
  cases found with
  | some j =>
      obtain ⟨hj, hread⟩ := hfound j rfl
      have hmember : optional (read? s) name (kept name always s (some j) ++ rest)
          = some (some j) := by
        rw [kept, hself, nullable?_of_ne_null hj, hread, Option.map_some]
      exact readMembers?_cons hmember hothers
  | none =>
      cases always with
      | false => exact readMembers?_cons (optional_of_not_mem habsent) hothers
      | true =>
          by_cases hnull : s.blank = .null
          · have hmember : optional (read? s) name (kept name true s none ++ rest) = some none := by
              rw [kept, if_pos rfl, hself, hnull]
              rfl
            exact readMembers?_cons hmember hothers
          · have hmember : optional (read? s) name (kept name true s none ++ rest)
                = some (some s.blank) := by
              rw [kept, if_pos rfl, hself, nullable?_of_ne_null hnull, hblank, Option.map_some]
            exact (readMembers?_cons hmember hothers).trans rfl

/-! ## Values of shapes -/

mutual

/-- At every level the names of members differ. -/
def isProper : Shape → Bool
  | .list s => s.isProper
  | .map s => s.isProper
  | .object ms => areProper ms
  | _ => true

/-- The names of members differ, there and at every level below. -/
def areProper : List (String × Bool × Shape) → Bool
  | [] => true
  | (name, _, s) :: ms => ms.all (·.1 != name) && s.isProper && areProper ms

end

theorem not_mem_of_all (h : shapes.all (·.1 != name) = true) : name ∉ shapes.map (·.1) := by
  intro hmem
  obtain ⟨sh, hsh, rfl⟩ := List.mem_map.1 hmem
  simpa using List.all_eq_true.1 h sh hsh

/-- Of proper shapes, the first has a name of its own, and all are proper. -/
theorem areProper_cons {always : Bool} (h : areProper ((name, always, s) :: shapes) = true) :
    name ∉ shapes.map (·.1) ∧ s.isProper = true ∧ areProper shapes = true := by
  rw [areProper, Bool.and_eq_true, Bool.and_eq_true] at h
  exact ⟨not_mem_of_all h.1.1, h.1.2, h.2⟩

/-- The first second of the year 1970. -/
def epoch : Instant :=
  ⟨⟨1970, 1, 1⟩, 0, false⟩

theorem isPoint_epoch : epoch.IsPoint :=
  ⟨by decide, by decide, by decide, by decide⟩

/-- A time is kept if the instant that it shows is written like that. -/
theorem read?_time {i : Instant} (h : Instant.ofText? i.text = some i) :
    read? .time (Json.text i.text) = some (.text i.text) := by
  have htext : text? (Json.text i.text) = some i.text := rfl
  rw [read?, htext, Option.bind_some, h, Option.map_some]

mutual

/-- What a shape makes of nothing is kept by it. -/
theorem read?_blank : ∀ s : Shape, s.isProper = true → read? s s.blank = some s.blank
  | .text, _ => rfl
  | .bytes, _ => rfl
  | .flag, _ => rfl
  | .int32, _ => rfl
  | .int64, _ => rfl
  | .intOrText, _ => rfl
  | .time, _ => read?_time (i := epoch) (Instant.ofText?_text isPoint_epoch)
  | .any, _ => rfl
  | .list _, _ => rfl
  | .map _, _ => rfl
  | .object shapes, h => by
    have hmembers : members? (blank (.object shapes)) = some (blankMembers shapes) := rfl
    rw [read?, hmembers, Option.bind_eq_bind, Option.bind_some, readMembers?_blank shapes h]
    rfl

/-- So it is of several shapes. -/
theorem readMembers?_blank : ∀ shapes : List (String × Bool × Shape), areProper shapes = true →
    readMembers? shapes (blankMembers shapes) = some (blankMembers shapes)
  | [], _ => rfl
  | (name, always, s) :: shapes, h => by
    obtain ⟨hname, hs, hshapes⟩ := areProper_cons h
    have hrest := readMembers?_blank shapes hshapes
    rw [blankMembers_cons]
    exact readMembers?_kept hname (not_mem_of_readMembers? hrest hname) hrest (read?_blank s hs)
      fun j hj => absurd hj (Option.some_ne_none j).symm

end

/-- What a shape makes of a value that stands for something stands for something. -/
theorem ne_null_of_read? (h : read? s j = some j') (hj : j ≠ .null) : j' ≠ .null := by
  rintro rfl
  cases s <;> simp only [read?, Option.bind_eq_bind, Option.bind_eq_some_iff, Option.map_eq_some_iff,
    Option.or_eq_some_iff, Option.pure_def, Option.some.injEq, reduceCtorEq, and_false, exists_false,
    or_false] at h
  cases h
  exact hj rfl

mutual

/-- A shape reads what it made of a document as itself. -/
theorem read?_read : ∀ (s : Shape) {j j' : Json}, s.isProper = true → read? s j = some j' →
    read? s j' = some j'
  | .text, _, _, _, h => by
    obtain ⟨t, -, rfl⟩ := Option.map_eq_some_iff.1 h
    rfl
  | .bytes, _, _, _, h => by
    obtain ⟨t, ht, rfl⟩ := Option.map_eq_some_iff.1 h
    exact Option.map_eq_some_iff.2
      ⟨t, Option.filter_eq_some_iff.2 ⟨rfl, (Option.filter_eq_some_iff.1 ht).2⟩, rfl⟩
  | .flag, _, _, _, h => by
    obtain ⟨b, -, rfl⟩ := Option.map_eq_some_iff.1 h
    rfl
  | .int32, _, _, _, h => by
    obtain ⟨n, hn, rfl⟩ := Option.map_eq_some_iff.1 h
    exact Option.map_eq_some_iff.2 ⟨n, intIn?_int hn, rfl⟩
  | .int64, _, _, _, h => by
    obtain ⟨n, hn, rfl⟩ := Option.map_eq_some_iff.1 h
    exact Option.map_eq_some_iff.2 ⟨n, intIn?_int hn, rfl⟩
  | .intOrText, _, _, _, h => by
    rw [read?, Option.or_eq_some_iff] at h
    rcases h with h | ⟨-, h⟩
    · obtain ⟨n, hn, rfl⟩ := Option.map_eq_some_iff.1 h
      rw [read?, int32?, intIn?_int hn]
      rfl
    · obtain ⟨t, -, rfl⟩ := Option.map_eq_some_iff.1 h
      rfl
  | .time, _, _, _, h => by
    obtain ⟨i, hi, rfl⟩ := Option.map_eq_some_iff.1 h
    obtain ⟨t, -, ht⟩ := Option.bind_eq_some_iff.1 hi
    exact read?_time (Instant.ofText?_text_of_ofText? ht)
  | .any, _, _, _, _ => rfl
  | .list s, _, _, hs, h => by
    obtain ⟨js, hjs, rfl⟩ := Option.map_eq_some_iff.1 h
    obtain ⟨vs, -, hvs⟩ := Option.bind_eq_some_iff.1 hjs
    refine Option.map_eq_some_iff.2 ⟨js, mapM_eq_some fun j hj => ?_, rfl⟩
    obtain ⟨v, -, hv⟩ := exists_of_mapM hvs j hj
    exact read?_read s hs hv
  | .map s, _, _, hs, h => by
    simp only [read?, Option.bind_eq_bind, Option.bind_eq_some_iff, Option.pure_def,
      Option.some.injEq] at h
    obtain ⟨ms, -, es, hes, rfl⟩ := h
    have hread : ∀ e ∈ es, (read? s e.2).map (e.1, ·) = some e := by
      intro e he
      obtain ⟨m, -, hm⟩ := exists_of_mapM hes e he
      obtain ⟨v, hv, rfl⟩ := Option.map_eq_some_iff.1 hm
      rw [read?_read s hs hv, Option.map_some]
    have hmembers : members? (Json.object (Dict.ofList es).entries)
        = some (Dict.ofList es).entries := rfl
    have hback := mapM_eq_some fun e he => hread e (Dict.mem_of_mem_ofList he)
    simp only [read?, hmembers, Option.bind_eq_bind, Option.bind_some, hback, Dict.ofList_entries,
      Option.pure_def]
  | .object shapes, _, _, hshapes, h => by
    simp only [read?, Option.bind_eq_bind, Option.bind_eq_some_iff, Option.pure_def,
      Option.some.injEq] at h
    obtain ⟨ms, -, rest, hrest, rfl⟩ := h
    have hmembers : members? (Json.object rest) = some rest := rfl
    rw [read?, hmembers, Option.bind_eq_bind, Option.bind_some,
      readMembers?_read shapes hshapes hrest]
    rfl

/-- **What shapes read once, they read again.** -/
theorem readMembers?_read : ∀ (shapes : List (String × Bool × Shape))
    {ms rest : List (String × Json)}, areProper shapes = true →
    readMembers? shapes ms = some rest → readMembers? shapes rest = some rest
  | [], _, _, _, h => by
    cases h
    rfl
  | (name, always, s) :: shapes, ms, ms', hproper, h => by
    obtain ⟨hname, hs, hshapes⟩ := areProper_cons hproper
    obtain ⟨found, rest, hfound, hrest, rfl⟩ := exists_of_readMembers? h
    refine readMembers?_kept hname (not_mem_of_readMembers? hrest hname)
      (readMembers?_read shapes hshapes hrest) (read?_blank s hs) ?_
    rintro j rfl
    obtain ⟨i, hi, hread⟩ := exists_of_optional hfound
    exact ⟨ne_null_of_read? hread hi, read?_read s hs hread⟩

end

/-! ## Members after others -/

variable {fields : List (String × Option Json)} {β : Type} {read : Json → Option β}

/-- A member of another name is read from the fields in front. -/
theorem optional_written (hrest : readMembers? shapes ms = some rest)
    (hname : name ∉ shapes.map (·.1)) :
    optional read name (Json.present fields ++ rest) = optional read name (Json.present fields) :=
  optional_append (not_mem_of_readMembers? hrest hname)

/-- Members are read back behind fields of other names. -/
theorem readMembers?_written (hrest : readMembers? shapes ms = some rest)
    (hproper : areProper shapes = true)
    (hothers : fields.all (fun f => shapes.all (·.1 != f.1)) = true) :
    readMembers? shapes (Json.present fields ++ rest) = some rest := by
  rw [readMembers?_append, readMembers?_read shapes hproper hrest]
  refine fun key hkey => not_mem_present fun hmem => ?_
  obtain ⟨sh, hsh, rfl⟩ := List.mem_map.1 hkey
  obtain ⟨f, hf, heq⟩ := List.mem_map.1 hmem
  have hne := List.all_eq_true.1 (List.all_eq_true.1 hothers f hf) sh hsh
  exact bne_iff_ne.1 hne heq.symm

end Shape

end LogOperator
