import LogOperator.Proofs.Reconcile.Pass

/-!
# LogOperator.Proofs.Reconcile.Agreement

Clusters that agree on some identities (`Cluster.SameOn`): they have the same objects there, and the
same log, pending failures and revision.  A call about such an identity answers the same in both and
leaves clusters that agree again (`Cluster.Coincide`), and so does carrying out an action.  What a
cluster holds elsewhere is never looked at.
-/

namespace LogOperator.Cluster

variable {P : Id → Prop} {c d : Cluster} {op : Operation} {id : Id} {r : Resource} {a : Action}

/-- The second cluster is the first one, up to objects of other identities than certain ones. -/
structure SameOn (P : Id → Prop) (c d : Cluster) : Prop where
  log : d.log = c.log
  failures : d.failures = c.failures
  revision : d.revision = c.revision
  objects : ∀ id, P id → d.objects.find? id = c.objects.find? id

/-- Two replies with the same answer, and with clusters that agree. -/
structure Coincide {α : Type} (P : Id → Prop) (reply reply' : Reply α) : Prop where
  answer : reply'.1 = reply.1
  cluster : SameOn P reply.2 reply'.2

/-- Replies that coincide, taken apart. -/
theorem Coincide.exists {α : Type} {reply reply' : Reply α} (h : Coincide P reply reply') :
    ∃ answer c' d', reply = (answer, c') ∧ reply' = (answer, d') ∧ SameOn P c' d' :=
  ⟨reply.1, reply.2, reply'.2, rfl, Prod.ext h.answer rfl, h.cluster⟩

namespace SameOn

theorem contains (h : SameOn P c d) (hid : P id) :
    d.objects.contains id = c.objects.contains id := by
  rw [Dict.contains, h.objects id hid, Dict.contains]

/-! ## Changes -/

theorem spend (h : SameOn P c d) : SameOn P (c.spend op id) (d.spend op id) where
  log := h.log
  failures := congrArg (·.erase (op, id)) h.failures
  revision := h.revision
  objects := h.objects

theorem write (h : SameOn P c d) : SameOn P (c.write op r) (d.write op r) where
  log := congrArg (· ++ [Mutation.mk op r.id]) h.log
  failures := h.failures
  revision := congrArg (· + 1) h.revision
  objects id hid := by rw [find?_write, find?_write, h.revision, h.objects id hid]

theorem discard (h : SameOn P c d) (hid : P id) : SameOn P (c.discard id) (d.discard id) where
  log := by
    simp only [Cluster.discard, h.contains hid]
    split
    · exact congrArg (· ++ [Mutation.mk .delete id]) h.log
    · exact h.log
  failures := by rw [failures_discard, failures_discard, h.failures]
  revision := by
    simp only [Cluster.discard, h.contains hid]
    split <;> exact h.revision
  objects id' hid' := by rw [find?_discard, find?_discard, h.objects id' hid']

/-! ## Calls -/

theorem unlessInjected {α : Type} {reply reply' : Reply α} (h : SameOn P c d)
    (hreply : Coincide P reply reply') :
    Coincide P (c.unlessInjected op id reply) (d.unlessInjected op id reply') := by
  by_cases hf : (op, id) ∈ c.failures
  · rw [unlessInjected_of_mem hf, unlessInjected_of_mem (h.failures ▸ hf)]
    exact ⟨rfl, h.spend⟩
  · rw [unlessInjected_of_not_mem hf, unlessInjected_of_not_mem (h.failures ▸ hf)]
    exact hreply

/-- Look-ups coincide. -/
theorem get (h : SameOn P c d) (hid : P id) : Coincide P (c.get id) (d.get id) :=
  h.unlessInjected ⟨congrArg Except.ok (h.objects id hid), h⟩

theorem create (h : SameOn P c d) (hid : P r.id) : Coincide P (c.create r) (d.create r) := by
  refine h.unlessInjected ?_
  rw [h.contains hid]
  split
  · exact ⟨rfl, h⟩
  · exact ⟨rfl, h.write⟩

theorem update (h : SameOn P c d) (hid : P r.id) : Coincide P (c.update r) (d.update r) := by
  refine h.unlessInjected ?_
  rw [h.contains hid]
  split
  · exact ⟨rfl, h.write⟩
  · exact ⟨rfl, h⟩

theorem delete (h : SameOn P c d) (hid : P id) : Coincide P (c.delete id) (d.delete id) := by
  rw [delete_eq, delete_eq]
  exact h.unlessInjected ⟨rfl, h.discard hid⟩

/-- Carrying out an action whose calls are about such identities. -/
theorem apply (h : SameOn P c d) (ht : P a.target) (hd : ∀ id, a.dependent? = some id → P id) :
    Coincide P (c.apply a) (d.apply a) := by
  cases a with
  | create r => exact h.create ht
  | updatePayload r dependent =>
      have hu : Coincide P (c.update r) (d.update r) := h.update ht
      obtain ⟨answer, c', d', hc, hd', h'⟩ := hu.exists
      simp only [Cluster.apply, hc, hd']
      cases answer with
      | error err => exact ⟨rfl, h'⟩
      | ok _ =>
          cases dependent with
          | none => exact ⟨rfl, h'⟩
          | some dependent => exact SameOn.delete h' (hd dependent rfl)
  | delete id | recreate id => exact h.delete ht

end SameOn

/-! ## Passes -/

variable {s : Settings} {v : ValidPipeline} {e : Endpoint} {images : Images}

/-- Visiting entries leaves objects under their own identities. -/
theorem Keyed.settle (hk : c.Keyed) (es : List Entry) : (c.settle es).2.Keyed := by
  rcases settle_cases hk es with ⟨-, hes⟩ | ⟨reply, hstop, hes⟩
  · rw [hes]
    exact hk
  · rw [hes]
    cases hstop with
    | unread => exact hk.spend
    | acts _ _ _ _ ha => exact ha.keyed hk

/-- So does looking for the endpoint. -/
theorem Keyed.resolveEndpoint (hk : c.Keyed) (v : ValidPipeline) :
    (c.resolveEndpoint v).2.Keyed := by
  unfold Cluster.resolveEndpoint
  split
  · exact hk
  · by_cases hf : (.get, Component.SearchEngine.serviceId v.ns) ∈ c.failures
    · simp only [get_of_mem hf]
      exact hk.spend
    · simp only [get_of_not_mem hf]
      cases c.objects.find? (Component.SearchEngine.serviceId v.ns) with
      | none => exact hk
      | some r => cases hr : r.address? <;> simpa only [hr] using hk

namespace SameOn

/-- A visit of slots looks at their objects only. -/
theorem settle (h : SameOn P c d) (hP : ∀ k : Slot, P (k.id v.ns)) (hk : c.Keyed)
    (ks : List Slot) : Coincide P (c.settle (ks.map (Slot.entry v e images)))
      (d.settle (ks.map (Slot.entry v e images))) := by
  induction ks generalizing c d with
  | nil => exact ⟨rfl, h⟩
  | cons k ks ih =>
      by_cases hf : (.get, k.id v.ns) ∈ c.failures
      · have hf' : (.get, k.id v.ns) ∈ d.failures := h.failures ▸ hf
        simp only [List.map_cons, Cluster.settle, Slot.id_entry, get_of_mem hf, get_of_mem hf']
        exact ⟨rfl, h.spend⟩
      · have hf' : (.get, k.id v.ns) ∉ d.failures := h.failures ▸ hf
        simp only [List.map_cons, Cluster.settle, Slot.id_entry, get_of_not_mem hf,
          get_of_not_mem hf', h.objects _ (hP k)]
        cases hd : (k.entry v e images).ensure (c.objects.find? (k.id v.ns)) with
        | none => exact ih h hk
        | some a =>
            have hw : c.Wants v e images k a := hk.wants (by rw [demand, Slot.id_entry, hd])
            have happly : Coincide P (c.apply a) (d.apply a) := by
              refine h.apply (hw.target ▸ hP k) fun id hdep => ?_
              obtain ⟨l, -, rfl⟩ := hw.dependent? hdep
              exact hP l
            obtain ⟨answer, c', d', hc, hd, h'⟩ := happly.exists
            simp only [hc, hd]
            cases answer <;> exact ⟨rfl, h'⟩

/-- The endpoint is found in both clusters, and is the same, or in none. -/
theorem resolveEndpoint (h : SameOn P c d) (hP : ∀ k : Slot, P (k.id v.ns)) :
    Coincide P (c.resolveEndpoint v) (d.resolveEndpoint v) := by
  unfold Cluster.resolveEndpoint
  cases v.externalEndpoint? with
  | some e => exact ⟨rfl, h⟩
  | none =>
      have hget : Coincide P (c.get (Slot.searchService.id v.ns)) _ := h.get (hP .searchService)
      obtain ⟨answer, c', d', hc, hd, h'⟩ := hget.exists
      have hid : Component.SearchEngine.serviceId v.ns = Slot.searchService.id v.ns := rfl
      simp only [hid, hc, hd]
      cases answer with
      | error err => exact ⟨rfl, h'⟩
      | ok service =>
          cases service with
          | none => exact ⟨rfl, h'⟩
          | some service => cases hr : service.address? <;> simpa only [hr] using ⟨rfl, h'⟩

/-- **A pass depends on the objects of its pipeline only**, and so does what it does to them. -/
theorem reconcileValid (h : SameOn P c d) (hP : ∀ k : Slot, P (k.id v.ns)) (hk : c.Keyed)
    (s : Settings) : Coincide P (c.reconcileValid s v) (d.reconcileValid s v) := by
  unfold Cluster.reconcileValid
  rw [Slot.entries_foundation v default]
  have hk₁ := hk.settle (Slot.foundation.map (Slot.entry v default s.images))
  have hfirst : Coincide P (c.settle (Slot.foundation.map (Slot.entry v default s.images))) _ :=
    h.settle hP hk Slot.foundation
  obtain ⟨first, c₁, d₁, hc₁, hd₁, h₁⟩ := hfirst.exists
  rw [hc₁] at hk₁
  simp only [hc₁, hd₁]
  match first with
  | .error err => exact ⟨rfl, h₁⟩
  | .ok (some a) => exact ⟨rfl, h₁⟩
  | .ok none =>
      have hk₂ := Keyed.resolveEndpoint hk₁ v
      obtain ⟨endpoint, c₂, d₂, hc₂, hd₂, h₂⟩ := (SameOn.resolveEndpoint h₁ hP).exists
      rw [hc₂] at hk₂
      simp only [hc₂, hd₂]
      cases endpoint with
      | error err => exact ⟨rfl, h₂⟩
      | ok e =>
          have hlast : Coincide P (c₂.settle (Slot.consumers.map (Slot.entry v e s.images))) _ :=
            SameOn.settle h₂ hP hk₂ Slot.consumers
          obtain ⟨last, c₃, d₃, hc₃, hd₃, h₃⟩ := hlast.exists
          simp only [Slot.entries_remaining, hc₃, hd₃]
          match last with
          | .error err => exact ⟨rfl, h₃⟩
          | .ok (some a) => exact ⟨rfl, h₃⟩
          | .ok none => exact ⟨rfl, h₃⟩

end SameOn

end LogOperator.Cluster
