import LogOperator.Proofs.Component.Framing

/-!
# LogOperator.Proofs.Component.Fingerprint

What a fingerprint says about the inputs that it was taken of.  Everything but the digest is injective:
the bytes of inputs determine the inputs (`framed_inj`), and

* `hexText_inj` — the hexadecimal text determines the digest;
* `CollisionFree.ofParts_inj` — so among inputs without a collision of digests, equal fingerprints
  mean equal inputs.
-/

namespace LogOperator

/-! ## Hexadecimal text -/

/-- Hexadecimal digits tell their values apart. -/
theorem digitChar_inj {m n : Nat} (hm : m < 16) (hn : n < 16)
    (h : Nat.digitChar m = Nat.digitChar n) : m = n := by
  have hfin : ∀ a b : Fin 16, Nat.digitChar a = Nat.digitChar b → a = b := by decide
  exact congrArg Fin.val (hfin ⟨m, hm⟩ ⟨n, hn⟩ h)

theorem hexByte_inj {b b' : UInt8} (h : hexByte b = hexByte b') : b = b' := by
  have hb := b.toNat_lt
  have hb' := b'.toNat_lt
  simp only [hexByte, List.cons.injEq, and_true] at h
  have hhigh := digitChar_inj (by omega) (by omega) h.1
  have hlow := digitChar_inj (by omega) (by omega) h.2
  exact UInt8.toNat_inj.1 (by omega)

/-- Bytes are told by their digits, since each takes two of them. -/
theorem flatMap_hexByte_inj {bs bs' : List UInt8} (h : bs.flatMap hexByte = bs'.flatMap hexByte) :
    bs = bs' := by
  induction bs generalizing bs' with
  | nil =>
      cases bs' with
      | nil => rfl
      | cons b' bs' => contradiction
  | cons b bs ih =>
      cases bs' with
      | nil => contradiction
      | cons b' bs' =>
          rw [List.flatMap_cons, List.flatMap_cons] at h
          obtain ⟨hhead, htail⟩ := List.append_inj h rfl
          rw [hexByte_inj hhead, ih htail]

/-- **A hexadecimal text tells its bytes.** -/
theorem hexText_inj {bs bs' : List UInt8} (h : hexText bs = hexText bs') : bs = bs' :=
  flatMap_hexByte_inj (String.ofList_injective h)

namespace Fingerprint

/-! ## Digests without collisions -/

/-- No two of the inputs have the same digest, unless they are digested as the same bytes. -/
structure CollisionFree (inputs : List (List String)) : Prop where
  sized : ∀ ps ∈ inputs, Sized ps
  distinct : ∀ ps ∈ inputs, ∀ qs ∈ inputs,
    Sha256.digest (framed ps) = Sha256.digest (framed qs) → framed ps = framed qs

/-- **Equal fingerprints mean equal inputs**, among inputs without a collision. -/
theorem CollisionFree.ofParts_inj {inputs : List (List String)} (h : CollisionFree inputs)
    {ps qs : List String} (hp : ps ∈ inputs) (hq : qs ∈ inputs) (heq : ofParts ps = ofParts qs) :
    ps = qs :=
  framed_inj (h.sized ps hp) (h.sized qs hq) (h.distinct ps hp qs hq (hexText_inj heq))

/-- Inputs that are all the same have no collision. -/
theorem collisionFree_of_forall_eq {inputs : List (List String)} {ps : List String} (hs : Sized ps)
    (h : ∀ qs ∈ inputs, qs = ps) : CollisionFree inputs where
  sized qs hq := h qs hq ▸ hs
  distinct qs hq rs hr _ := by rw [h qs hq, h rs hr]

/-- Two inputs with different digests have no collision. -/
theorem collisionFree_pair {ps qs : List String} (hp : Sized ps) (hq : Sized qs)
    (hne : Sha256.digest (framed ps) ≠ Sha256.digest (framed qs)) : CollisionFree [ps, qs] where
  sized rs hr := by
    simp only [List.mem_cons, List.not_mem_nil, or_false] at hr
    rcases hr with rfl | rfl
    · exact hp
    · exact hq
  distinct rs hr ts ht heq := by
    simp only [List.mem_cons, List.not_mem_nil, or_false] at hr ht
    rcases hr with rfl | rfl <;> rcases ht with rfl | rfl
    · rfl
    · exact absurd heq hne
    · exact absurd heq.symm hne
    · rfl

end Fingerprint

end LogOperator
