/-!
# LogOperator.Dict

Finite maps that list their keys in increasing order.  The order is part of the value, so two maps
with the same look-ups are equal, and listing a map shows its keys sorted.

* `find?_insert`, `find?_erase`: what each operation does to a look-up.
* `ext`: look-ups determine the map.
-/

namespace LogOperator

/-- A finite map from `κ` to `ν`, as a list of entries with increasing keys. -/
structure Dict (κ ν : Type) [Ord κ] where
  entries : List (κ × ν)
  sorted : entries.Pairwise fun a b => compare a.1 b.1 = .lt
deriving DecidableEq

namespace Dict

variable {κ ν : Type} [Ord κ]

def empty : Dict κ ν :=
  ⟨[], .nil⟩

instance : Inhabited (Dict κ ν) := ⟨empty⟩

/-- The value stored under a key. -/
def find? (d : Dict κ ν) (k : κ) : Option ν :=
  (d.entries.find? fun e => compare e.1 k == .eq).map (·.2)

def contains (d : Dict κ ν) (k : κ) : Bool :=
  (d.find? k).isSome

/-- The keys in increasing order. -/
def keys (d : Dict κ ν) : List κ :=
  d.entries.map (·.1)

/-- The values in the order of their keys. -/
def values (d : Dict κ ν) : List ν :=
  d.entries.map (·.2)

def size (d : Dict κ ν) : Nat :=
  d.entries.length

/-- The map without the entry of a key. -/
def erase (d : Dict κ ν) (k : κ) : Dict κ ν :=
  ⟨d.entries.filter fun e => compare e.1 k != .eq, d.sorted.filter _⟩

/-- Entries with one put in its place; an entry of the same key is replaced. -/
def insertEntry (k : κ) (v : ν) : List (κ × ν) → List (κ × ν)
  | [] => [(k, v)]
  | e :: es =>
    match compare k e.1 with
    | .lt => (k, v) :: e :: es
    | .eq => (k, v) :: es
    | .gt => e :: insertEntry k v es

/-- An insertion adds no entry but its own. -/
theorem mem_insertEntry {k : κ} {v : ν} {es : List (κ × ν)} {x : κ × ν}
    (h : x ∈ insertEntry k v es) : x = (k, v) ∨ x ∈ es := by
  induction es with
  | nil => simpa [insertEntry] using h
  | cons e es ih =>
    rw [insertEntry] at h
    split at h <;> simp only [List.mem_cons] at h ⊢
    · exact h
    · exact h.elim .inl fun h => .inr (.inr h)
    · exact h.elim (fun h => .inr (.inl h)) fun h => (ih h).imp id .inr

variable [Std.TransOrd κ] [Std.LawfulEqOrd κ]

/-- An insertion keeps the entries in increasing order of their keys. -/
theorem pairwise_insertEntry {k : κ} {v : ν} {es : List (κ × ν)}
    (h : es.Pairwise fun a b => compare a.1 b.1 = .lt) :
    (insertEntry k v es).Pairwise fun a b => compare a.1 b.1 = .lt := by
  induction es with
  | nil => simp [insertEntry]
  | cons e es ih =>
    rw [List.pairwise_cons] at h
    rw [insertEntry]
    split
    · next lt =>
      refine .cons (fun x hx => ?_) (.cons h.1 h.2)
      rcases List.mem_cons.1 hx with rfl | hx
      · exact lt
      · exact Std.TransCmp.lt_trans lt (h.1 x hx)
    · next eq =>
      obtain rfl := Std.LawfulEqCmp.eq_of_compare eq
      exact .cons h.1 h.2
    · next gt =>
      refine .cons (fun x hx => ?_) (ih h.2)
      rcases mem_insertEntry hx with rfl | hx
      · exact Std.OrientedCmp.gt_iff_lt.1 gt
      · exact h.1 x hx

/-- The map with a value stored under a key, instead of the value stored there before. -/
def insert (d : Dict κ ν) (k : κ) (v : ν) : Dict κ ν :=
  ⟨insertEntry k v d.entries, pairwise_insertEntry d.sorted⟩

/-- The map of a list of entries; of entries with one key the last counts. -/
def ofList (es : List (κ × ν)) : Dict κ ν :=
  es.foldl (fun d e => d.insert e.1 e.2) empty

/-! ## Look-ups -/

omit [Std.LawfulEqOrd κ] in
theorem compare_self_ne_lt (k : κ) : compare k k ≠ .lt := by
  simp

omit [Std.TransOrd κ] [Std.LawfulEqOrd κ] in
@[simp] theorem find?_empty (k : κ) : (empty : Dict κ ν).find? k = none := rfl

variable [DecidableEq κ]

omit [Std.TransOrd κ] in
theorem compare_beq_eq (a b : κ) : (compare a b == .eq) = decide (a = b) := by
  rw [Bool.eq_iff_iff]
  simp [Std.LawfulEqCmp.compare_eq_iff_eq]

/-- Looked up among the entries, an insertion changes its own key only. -/
theorem find?_insertEntry (k k' : κ) (v : ν) (es : List (κ × ν)) :
    ((insertEntry k v es).find? fun e => compare e.1 k' == .eq).map (·.2)
      = if k = k' then some v else (es.find? fun e => compare e.1 k' == .eq).map (·.2) := by
  simp only [compare_beq_eq]
  induction es with
  | nil => by_cases h : k = k' <;> simp [insertEntry, h]
  | cons e es ih =>
    rw [insertEntry]
    split
    · by_cases h : k = k' <;> simp [h]
    · next eq =>
      have : k = e.1 := Std.LawfulEqCmp.eq_of_compare eq
      by_cases h : e.1 = k' <;> simp [this, h]
    · next gt =>
      by_cases h : e.1 = k'
      · have : k ≠ k' := by
          rintro rfl
          have lt := Std.OrientedCmp.gt_iff_lt.1 gt
          rw [h] at lt
          exact compare_self_ne_lt k lt
        simp [h, this]
      · simpa [List.find?_cons, h] using ih

/-- An insertion decides what is found under its key, and nothing else. -/
theorem find?_insert (d : Dict κ ν) (k k' : κ) (v : ν) :
    (d.insert k v).find? k' = if k = k' then some v else d.find? k' :=
  find?_insertEntry k k' v d.entries

omit [Std.TransOrd κ] in
/-- Under a key that was erased nothing is found; elsewhere all is as before. -/
theorem find?_erase (d : Dict κ ν) (k k' : κ) :
    (d.erase k).find? k' = if k = k' then none else d.find? k' := by
  simp only [find?, erase, List.find?_filter, bne, compare_beq_eq]
  by_cases h : k = k'
  · subst h
    rw [if_pos rfl, List.find?_eq_none.2 (by simp)]
    rfl
  · rw [if_neg h]
    congr 2
    funext e
    by_cases h' : e.1 = k'
    · simp [h', Ne.symm h]
    · simp [h']

/-- What is found under a key is its entry, since no key has two. -/
theorem find?_eq_some_iff (d : Dict κ ν) (k : κ) (v : ν) :
    d.find? k = some v ↔ (k, v) ∈ d.entries := by
  obtain ⟨es, sorted⟩ := d
  simp only [find?, compare_beq_eq]
  induction es with
  | nil => simp
  | cons e es ih =>
    rw [List.pairwise_cons] at sorted
    by_cases h : e.1 = k
    · have absent : (k, v) ∉ es := fun mem => by
        have lt := sorted.1 _ mem
        rw [h] at lt
        exact compare_self_ne_lt k lt
      simp only [List.find?_cons, h, decide_true, Option.map_some, Option.some.injEq,
        List.mem_cons, absent, or_false]
      exact ⟨fun hv => by rw [← h, ← hv], fun hv => by rw [← hv]⟩
    · have : (k, v) ≠ e := fun he => h (by rw [← he])
      simpa [List.find?_cons, h, this] using ih sorted.2

/-- Two maps with the same look-ups are equal. -/
theorem ext {d d' : Dict κ ν} (h : ∀ k, d.find? k = d'.find? k) : d = d' := by
  have mem (x : κ × ν) : x ∈ d.entries ↔ x ∈ d'.entries := by
    rw [← find?_eq_some_iff d x.1 x.2, h, find?_eq_some_iff]
  have nodup {es : List (κ × ν)} (s : es.Pairwise fun a b => compare a.1 b.1 = .lt) : es.Nodup :=
    s.imp fun {a b} lt => by
      rintro rfl
      exact compare_self_ne_lt a.1 lt
  have perm : d.entries.Perm d'.entries :=
    (List.perm_ext_iff_of_nodup (nodup d.sorted) (nodup d'.sorted)).2 mem
  have eq : d.entries = d'.entries :=
    perm.eq_of_pairwise
      (fun a b _ _ (lt : compare a.1 b.1 = .lt) (gt : compare b.1 a.1 = .lt) =>
        absurd (Std.TransCmp.lt_trans lt gt) (compare_self_ne_lt a.1))
      d.sorted d'.sorted
  cases d
  cases d'
  cases eq
  rfl

end Dict

/-- Maps from text to text, as labels, annotations and file sets are. -/
abbrev TextMap := Dict String String

end LogOperator
