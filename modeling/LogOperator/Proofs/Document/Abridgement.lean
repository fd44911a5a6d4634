import LogOperator.Proofs.Json.RoundTrip
import LogOperator.Proofs.Object.Members
import Mathlib.Data.List.Forall2

/-!
# LogOperator.Proofs.Document.Abridgement

Records that are written shorter than they could be.  A member of a record may be left out if it holds
its default, and some values may be spelled in more than one way.  Which ones, is said by a table of the
record's members (`Field`), independently of its reader:

* `Abridges` — members with any of their defaults left out;
* `Tolerates` — a reader takes whatever abridges a written value for that value;
* `Abridges.defaulted`, `Abridges.required` — what is read of a member of an abridged record.

The text of an abridged value is read back as well, if a text can stand for it at all (`Prints`).
-/

namespace LogOperator.Document

open Json

variable {β : Type} {read : Json → Option β} {write : β → Json} {R : Json → Json → Prop}
  {name key : String} {j j' : Json} {ms ms' : List (String × Json)} {depth i : Nat}

/-! ## Single members -/

theorem single?_of_not_mem (h : name ∉ ms.map (·.1)) : single? name ms = some none := by
  rw [single?, filter_eq_nil_of_not_mem h]

theorem single?_cons_ne (h : key ≠ name) : single? name ((key, j) :: ms) = single? name ms := by
  rw [single?, single?, List.filter_cons_of_neg (by simpa using h)]

/-- A member that is there once is read. -/
theorem single?_cons_self (h : name ∉ ms.map (·.1)) :
    single? name ((name, j) :: ms) = some (some j) := by
  rw [single?, List.filter_cons_of_pos (by simp), filter_eq_nil_of_not_mem h]

/-! ## Abridged records -/

/-- A member of a record: its name, the written form of its default, if it has one, and in which ways a
written value may be abridged. -/
structure Field where
  name : String
  dflt : Option Json
  abridges : Json → Json → Prop

/-- The members of a record, each with its value abridged, or left out because it holds its default. -/
inductive Abridges : List Field → List (String × Json) → List (String × Json) → Prop where
  | nil : Abridges [] [] []
  | keep {f : Field} {fs : List Field} {j j' : Json} {ms ms' : List (String × Json)}
      (hj : f.abridges j j') (h : Abridges fs ms ms') :
      Abridges (f :: fs) ((f.name, j) :: ms) ((f.name, j') :: ms')
  | drop {f : Field} {fs : List Field} {j : Json} {ms ms' : List (String × Json)}
      (hj : f.dflt = some j) (h : Abridges fs ms ms') : Abridges (f :: fs) ((f.name, j) :: ms) ms'

/-- An object whose members are abridged. -/
def AbridgesRecord (fs : List Field) (j j' : Json) : Prop :=
  ∃ ms ms', j = .object ms ∧ j' = .object ms' ∧ Abridges fs ms ms'

@[simp] theorem record?_object (names : List String) (ms : List (String × Json)) :
    Document.record? names (Json.object ms) = some ms := rfl

/-- What abridges an object is an object with abridged members. -/
theorem AbridgesRecord.exists_members {fs : List Field} (h : AbridgesRecord fs (.object ms) j) :
    ∃ ms', j = .object ms' ∧ Abridges fs ms ms' := by
  obtain ⟨_, ms', hms, rfl, h⟩ := h
  cases hms
  exact ⟨ms', rfl, h⟩

theorem Abridges.record {fs : List Field} (h : Abridges fs ms ms') :
    AbridgesRecord fs (.object ms) (.object ms') :=
  ⟨ms, ms', rfl, rfl, h⟩

/-- A list whose items are abridged. -/
def AbridgesList (R : Json → Json → Prop) (j j' : Json) : Prop :=
  ∃ js js', j = .list js ∧ j' = .list js' ∧ List.Forall₂ R js js'

namespace Abridges

variable {fs : List Field} {f : Field}

/-- Nothing is added. -/
theorem names_subset (h : Abridges fs ms ms') : ms'.map (·.1) ⊆ fs.map (·.name) := by
  induction h with
  | nil => exact List.Subset.refl _
  | keep hj h ih => exact List.cons_subset_cons _ ih
  | drop hj h ih => exact List.subset_cons_of_subset _ ih

/-- **A member of an abridged record** is there once, with its value abridged, or it is not there and
held its default. -/
theorem single? (h : Abridges fs ms ms') (hn : (fs.map (·.name)).Nodup) (hf : fs[i]? = some f)
    (hm : ms[i]? = some (f.name, j)) :
    (∃ j', Document.single? f.name ms' = some (some j') ∧ f.abridges j j') ∨
      Document.single? f.name ms' = some none ∧ f.dflt = some j := by
  induction h generalizing i with
  | nil => simp at hf
  | @keep g fs k k' ms ms' hk h ih =>
      obtain ⟨hnew, hn⟩ := List.nodup_cons.1 hn
      cases i with
      | zero =>
          simp only [List.getElem?_cons_zero, Option.some.injEq, Prod.mk.injEq] at hf hm
          obtain ⟨rfl, -, rfl⟩ := And.intro hf hm
          exact .inl ⟨k', single?_cons_self fun hmem => hnew (h.names_subset hmem), hk⟩
      | succ i =>
          have hne : g.name ≠ f.name := fun heq =>
            hnew (List.mem_map.2 ⟨f, List.mem_of_getElem? hf, heq.symm⟩)
          rw [single?_cons_ne hne]
          exact ih hn hf hm
  | @drop g fs k ms ms' hk h ih =>
      obtain ⟨hnew, hn⟩ := List.nodup_cons.1 hn
      cases i with
      | zero =>
          simp only [List.getElem?_cons_zero, Option.some.injEq, Prod.mk.injEq] at hf hm
          obtain ⟨rfl, -, rfl⟩ := And.intro hf hm
          exact .inr ⟨single?_of_not_mem fun hmem => hnew (h.names_subset hmem), hk⟩
      | succ i => exact ih hn hf hm

end Abridges

/-! ## Readers -/

/-- The reader takes everything that abridges the written form of a value for this value. -/
structure Tolerates (read : Json → Option β) (write : β → Json) (R : Json → Json → Prop) : Prop where
  refl (x : β) : R (write x) (write x)
  read_eq {x : β} {j : Json} : R (write x) j → read j = some x

namespace Tolerates

/-- What is written in full is read back. -/
theorem read_write (h : Tolerates read write R) (x : β) : read (write x) = some x :=
  h.read_eq (h.refl x)

/-- A reader that inverts the writer tolerates what is written, if nothing else. -/
theorem of_eq (h : ∀ x, read (write x) = some x) : Tolerates read write Eq where
  refl _ := rfl
  read_eq {x _} hj := hj ▸ h x

theorem text : Tolerates text? .text Eq :=
  of_eq fun _ => rfl

theorem flag : Tolerates bool? .bool Eq :=
  of_eq fun _ => rfl

/-- Lists of texts have one written form. -/
theorem texts : Tolerates (listOf? text?) .texts Eq :=
  of_eq fun _ => mapM_map_eq_some fun _ _ => rfl

/-- A list is read if each item may be abridged. -/
theorem listOf (h : Tolerates read write R) :
    Tolerates (Document.listOf? read) (fun xs => .list (xs.map write)) (AbridgesList R) where
  refl xs := by
    refine ⟨_, _, rfl, rfl, List.forall₂_same.2 fun j hj => ?_⟩
    obtain ⟨x, -, rfl⟩ := List.mem_map.1 hj
    exact h.refl x
  read_eq {xs j} hj := by
    obtain ⟨js, js', hlist, rfl, hjs⟩ := hj
    cases hlist
    change js'.mapM read = some xs
    induction xs generalizing js' with
    | nil =>
        cases hjs
        rfl
    | cons x xs ih =>
        cases hjs with
        | cons hx hxs => simp [h.read_eq hx, ih _ hxs]

end Tolerates

namespace Abridges

variable {fs : List Field} {x d : β}

/-- A member without a default is read from wherever it stands. -/
theorem required (h : Abridges fs ms ms') (hn : (fs.map (·.name)).Nodup)
    (ht : Tolerates read write R) (hf : fs[i]? = some ⟨name, none, R⟩)
    (hm : ms[i]? = some (name, write x)) : Document.required read name ms' = some x := by
  rcases h.single? hn hf hm with ⟨j', hsingle, hj'⟩ | ⟨-, hdflt⟩
  · have hread := ht.read_eq hj'
    simp only at hsingle
    simp [Document.required, hsingle, hread]
  · contradiction

/-- A member that is left out is read as its default, which it held. -/
theorem defaulted (h : Abridges fs ms ms') (hn : (fs.map (·.name)).Nodup)
    (ht : Tolerates read write R) (hf : fs[i]? = some ⟨name, some (write d), R⟩)
    (hm : ms[i]? = some (name, write x)) : Document.defaulted read d name ms' = some x := by
  rcases h.single? hn hf hm with ⟨j', hsingle, hj'⟩ | ⟨hsingle, hdflt⟩
  · have hread := ht.read_eq hj'
    simp only at hsingle
    simp [Document.defaulted, hsingle, hread]
  · have hsame : some d = some x := by
      rw [← ht.read_write d, ← ht.read_write x, Option.some.inj hdflt]
    simp only at hsingle
    simp [Document.defaulted, hsingle, Option.some.inj hsame]

end Abridges

/-! ## Texts -/

/-- A text can stand for everything that abridges a written value. -/
def Prints (depth : Nat) (write : β → Json) (R : Json → Json → Prop) : Prop :=
  ∀ x j, R (write x) j → isPrintable depth j = true

/-- If there is one written form, a text has to stand for that alone. -/
theorem Prints.of_eq (h : ∀ x, isPrintable depth (write x) = true) : Prints depth write Eq :=
  fun x _ hj => hj ▸ h x

/-- Texts can stand for a list if they can for its items. -/
theorem Prints.listOf (h : Prints depth write R) :
    Prints (depth + 1) (fun xs : List β => .list (xs.map write)) (AbridgesList R) := by
  rintro xs j ⟨js, js', hlist, rfl, hjs⟩
  cases hlist
  change arePrintable depth js' = true
  induction xs generalizing js' with
  | nil =>
      cases hjs
      rfl
  | cons x xs ih =>
      cases hjs with
      | cons hx hxs => simp [arePrintable, h x _ hx, ih _ hxs]

/-- A text can stand for any list of texts. -/
@[simp] theorem isPrintable_texts (l : List String) :
    isPrintable (depth + 1) (.texts l) = true := by
  change arePrintable depth (l.map .text) = true
  induction l with
  | nil => rfl
  | cons s l ih => simpa [arePrintable, isPrintable] using ih

/-- Texts can stand for the members of an abridged record if they can for each value. -/
theorem Abridges.havePrintable {fs : List Field} (h : Abridges fs ms ms')
    (hprints : ∀ x ∈ fs.zip ms, ∀ j, x.1.abridges x.2.2 j → isPrintable depth j = true) :
    havePrintable depth ms' = true := by
  induction h with
  | nil => rfl
  | keep hj h ih =>
      obtain ⟨hfirst, hrest⟩ := List.forall_mem_cons.1 hprints
      simp [Json.havePrintable, hfirst _ hj, ih hrest]
  | drop hj h ih => exact ih (List.forall_mem_cons.1 hprints).2

end LogOperator.Document
