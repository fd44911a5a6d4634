import LogOperator.Proofs.Desired.Slot

/-!
# LogOperator.Proofs.Reconcile.Demand

What the entries of a desired state call for in a cluster, slot by slot:

* `Cluster.Holds` — the object of a slot is as desired, so that nothing is called for;
* `Cluster.Wants` — the action that a slot calls for otherwise;
* `Wants.frame` — the action leaves all slots alone but its own and the dependent one;
* `Wants.holds_perform`, `Wants.missing_perform` — once the action was performed, its slot holds,
  unless it was a stale workload, which is missing then;
* `Wants.follows` — the changes of the action are about its slot and the dependent one.
-/

namespace LogOperator

namespace Cluster

variable {c c' : Cluster} {v : ValidPipeline} {images : Images} {e : Endpoint} {x : Entry}
  {a : Action} {k l : Slot} {reply : Reply Unit}

/-! ## Demands of entries -/

/-- What an entry calls for in a cluster. -/
def demand (c : Cluster) (x : Entry) : Option Action :=
  x.ensure (c.objects.find? x.id)

/-- A demand only looks at the object of the entry. -/
theorem demand_congr (h : c'.objects.find? x.id = c.objects.find? x.id) :
    c'.demand x = c.demand x := by
  rw [demand, h, demand]

/-- What is demanded is what the entry calls for. -/
theorem KeyedAt.calls (hk : c.KeyedAt x.id) (h : c.demand x = some a) :
    x.Calls (c.objects.find? x.id) a :=
  Entry.calls_of_ensure hk h

theorem Keyed.calls (hk : c.Keyed) (h : c.demand x = some a) :
    x.Calls (c.objects.find? x.id) a :=
  KeyedAt.calls (hk x.id) h

/-- An action is about the object of its entry, and fits what the cluster holds of it. -/
theorem KeyedAt.target_of_demand (hk : c.KeyedAt x.id) (h : c.demand x = some a) :
    a.target = x.id ∧ (a.before = .present ↔ c.objects.contains a.target = true) := by
  have hc := hk.calls h
  generalize hobs : c.objects.find? x.id = observed at hc
  cases hc with
  | missing r dependent => simpa [Action.target, Entry.id, Action.before, Dict.contains] using hobs
  | drifted dependent hr hcur hd =>
      next r current =>
      have hid : current.id = r.id := hk _ hobs
      have hobs : c.objects.find? r.id = some current := hobs
      simp [Action.target, Action.before, Entry.id, Dict.contains, hid, hobs]
  | stale dependent hd hw hf =>
      next r current =>
      have hobs : c.objects.find? r.id = some current := hobs
      simp [Action.target, Action.before, Entry.id, Dict.contains, hobs]
  | disabled id hm =>
      next current =>
      have hobs : c.objects.find? id = some current := hobs
      simp [Action.target, Action.before, Entry.id, Dict.contains, hobs]

/-- An action is on the identity of its entry, and on an object that is there unless it creates it.
-/
theorem Keyed.target_of_demand (hk : c.Keyed) (h : c.demand x = some a) :
    a.target = x.id ∧ (a.before = .present ↔ c.objects.contains a.target = true) :=
  KeyedAt.target_of_demand (hk x.id) h

/-- An action does not delete the object that it writes, if its entry does not depend on itself. -/
theorem KeyedAt.dependent?_ne_target (hk : c.KeyedAt x.id) (hx : x.dependent? ≠ some x.id)
    (h : c.demand x = some a) : a.dependent? ≠ some a.target := by
  intro hself
  rw [(hk.target_of_demand h).1] at hself
  exact hx ((hk.calls h).dependent? hself)

/-! ## Slots that hold -/

/-- The object of a slot is as desired: one that agrees is there, or none of the operator's. -/
def Holds (c : Cluster) (v : ValidPipeline) (e : Endpoint) (images : Images) (k : Slot) : Prop :=
  if k.enabled v then
    ∃ r, c.objects.find? (k.id v.ns) = some r ∧ (k.resource v e images).Agrees r
  else ∀ r, c.objects.find? (k.id v.ns) = some r → r.isManaged = false

/-- A slot that is switched on holds if an object is there that agrees. -/
theorem holds_iff_of_enabled (hen : k.enabled v = true) : c.Holds v e images k ↔
    ∃ r, c.objects.find? (k.id v.ns) = some r ∧ (k.resource v e images).Agrees r := by
  rw [Holds, if_pos hen]

/-- A slot that is switched off holds if no object of the operator is there. -/
theorem holds_iff_of_disabled (hen : k.enabled v = false) : c.Holds v e images k ↔
    ∀ r, c.objects.find? (k.id v.ns) = some r → r.isManaged = false := by
  rw [Holds, if_neg (Bool.not_eq_true _ ▸ hen)]

/-- The object that is found decides whether a slot that must be there holds. -/
theorem holds_iff_agrees {r : Resource} (hen : k.enabled v = true)
    (hr : c.objects.find? (k.id v.ns) = some r) :
    c.Holds v e images k ↔ (k.resource v e images).Agrees r := by
  simp only [holds_iff_of_enabled hen, hr, Option.some.injEq, exists_eq_left']

/-- An object of the operator that is left where a slot holds is a desired one. -/
theorem Holds.enabled {r : Resource} (h : c.Holds v e images k)
    (hr : c.objects.find? (k.id v.ns) = some r) (hm : r.isManaged = true) : k.enabled v = true := by
  cases hen : k.enabled v with
  | true => rfl
  | false =>
      have hnot := (holds_iff_of_disabled hen).1 h r hr
      rw [hm] at hnot
      contradiction

/-- Whether a slot holds depends on its own object only. -/
theorem holds_congr (h : c'.objects.find? (k.id v.ns) = c.objects.find? (k.id v.ns)) :
    c'.Holds v e images k ↔ c.Holds v e images k := by
  rw [Holds, h, Holds]

/-- What is put under another identity does not matter to a slot. -/
theorem holds_seed {r : Resource} (h : r.id ≠ k.id v.ns) :
    (c.seed r).Holds v e images k ↔ c.Holds v e images k :=
  holds_congr (by rw [find?_seed, if_neg h])

/-- **A slot demands nothing exactly if it holds.** -/
theorem Keyed.demand_entry_eq_none_iff (hk : c.Keyed) (k : Slot) :
    c.demand (k.entry v e images) = none ↔ c.Holds v e images k := by
  rw [demand, Slot.id_entry, Holds, Slot.entry]
  split
  · rw [Entry.ensure_present_eq_none_iff]
    intro current h
    rw [Slot.id_resource]
    exact hk _ current h
  · exact Entry.ensure_absent_eq_none_iff

/-- Whether the foundation holds does not depend on the endpoint. -/
theorem Keyed.holds_of_mem_foundation (hk : c.Keyed) (hf : k ∈ Slot.foundation) (e' : Endpoint)
    (h : c.Holds v e images k) : c.Holds v e' images k := by
  rw [← hk.demand_entry_eq_none_iff] at h ⊢
  rw [← Slot.entry_of_mem_foundation v e images hf e']
  exact h

/-! ## Slots that do not -/

/-- What a slot calls for, by what the cluster holds. -/
inductive Wants (c : Cluster) (v : ValidPipeline) (e : Endpoint) (images : Images) (k : Slot) :
    Action → Prop where
  | missing (hen : k.enabled v = true) (ho : c.objects.find? (k.id v.ns) = none) :
      Wants c v e images k (.create (k.resource v e images))
  | drifted {current : Resource} (hen : k.enabled v = true)
      (ho : c.objects.find? (k.id v.ns) = some current) (hid : current.id = k.id v.ns)
      (hk : k.kind = .configMap) (hd : (k.resource v e images).data? ≠ current.data?) :
      Wants c v e images k (.updatePayload (current.withData (k.resource v e images).data?)
        (k.dependent?.map (Slot.id v.ns)))
  | stale {current : Resource} (hen : k.enabled v = true)
      (ho : c.objects.find? (k.id v.ns) = some current) (hw : k.kind.isWorkload = true)
      (hf : (k.resource v e images).fingerprint? ≠ current.fingerprint?) :
      Wants c v e images k (.recreate (k.id v.ns))
  | disabled {current : Resource} (hen : k.enabled v = false)
      (ho : c.objects.find? (k.id v.ns) = some current) (hm : current.isManaged = true) :
      Wants c v e images k (.delete (k.id v.ns))

/-- What a slot demands, it wants in one of these ways. -/
theorem Keyed.wants (hk : c.Keyed) (h : c.demand (k.entry v e images) = some a) :
    c.Wants v e images k a := by
  have hc := hk.calls h
  rw [Slot.id_entry] at hc
  cases hen : k.enabled v with
  | true =>
      rw [Slot.entry, if_pos hen] at hc
      generalize hobs : c.objects.find? (k.id v.ns) = observed at hc
      cases hc with
      | missing => exact .missing hen hobs
      | drifted _ hr _ hd => exact .drifted hen hobs (hk _ _ hobs) (by simpa using hr) hd
      | stale _ _ hw hf =>
          rw [Slot.id_resource]
          exact .stale hen hobs (by simpa using hw) hf
  | false =>
      rw [Slot.entry, if_neg (by simp [hen])] at hc
      generalize hobs : c.objects.find? (k.id v.ns) = observed at hc
      cases hc with
      | disabled _ hm => exact .disabled hen hobs hm

namespace Wants

/-- The action that a slot wants is on its own object. -/
theorem target (h : c.Wants v e images k a) : a.target = k.id v.ns := by
  cases h with
  | missing => exact Slot.id_resource v e images k
  | drifted _ _ hid => rw [Action.target, Resource.id_withData, hid]
  | stale | disabled => rfl

/-- What it removes besides is the workload that mounts the slot's data. -/
theorem dependent? (h : c.Wants v e images k a) {id : Id} (hd : a.dependent? = some id) :
    ∃ l, k.dependent? = some l ∧ id = l.id v.ns := by
  cases h with
  | drifted =>
      obtain ⟨l, hl, hid⟩ := Option.map_eq_some_iff.1 hd
      exact ⟨l, hl, hid.symm⟩
  | missing | stale | disabled => contradiction

/-- An action does not delete the object that it writes. -/
theorem dependent?_ne_target (h : c.Wants v e images k a) : a.dependent? ≠ some a.target := by
  intro hself
  obtain ⟨l, hl, hid⟩ := h.dependent? hself
  rw [h.target] at hid
  exact Slot.ne_of_dependent? hl (Slot.id_inj hid).symm

/-- What an action writes is the slot's object, or the stored one with the slot's data. -/
theorem resource? (h : c.Wants v e images k a) {w : Resource} (hw : a.resource? = some w) :
    k.enabled v = true ∧ (w = k.resource v e images ∨ k.kind = .configMap ∧
      ∃ current, c.objects.find? (k.id v.ns) = some current ∧
        w = current.withData (k.resource v e images).data?) := by
  cases h with
  | missing hen => exact ⟨hen, .inl (Option.some.inj hw).symm⟩
  | drifted hen ho _ hk => exact ⟨hen, .inr ⟨hk, _, ho, (Option.some.inj hw).symm⟩⟩
  | stale | disabled => contradiction

/-- **Frame**: the action of a slot leaves the other slots alone, except the dependent one. -/
theorem frame (h : c.Wants v e images k a) (ha : c.Applies a reply) (hl : l ≠ k)
    (hd : k.dependent? ≠ some l) :
    reply.2.objects.find? (l.id v.ns) = c.objects.find? (l.id v.ns) := by
  refine ha.frame ?_ fun hdep => ?_
  · rw [h.target]
    exact Slot.id_ne hl.symm
  · obtain ⟨j, hj, hid⟩ := h.dependent? hdep
    exact hd (hj.trans (congrArg some (Slot.id_inj hid).symm))

/-- A slot that holds wants nothing. -/
theorem not_holds (h : c.Wants v e images k a) : ¬ c.Holds v e images k := by
  intro hh
  cases h with
  | missing hen ho =>
      rw [holds_iff_of_enabled hen, ho] at hh
      obtain ⟨r, hr, -⟩ := hh
      contradiction
  | drifted hen ho _ _ hd => exact hd ((holds_iff_agrees hen ho).1 hh).1
  | stale hen ho hw hf =>
      obtain ⟨-, hfp⟩ := (holds_iff_agrees hen ho).1 hh
      exact hf (hfp (by simpa using hw))
  | disabled hen ho hm =>
      rw [hh.enabled ho hm] at hen
      contradiction

/-- A slot calls for one action at most. -/
theorem unique {b : Action} (h : c.Wants v e images k a) (h' : c.Wants v e images k b) : a = b := by
  cases h with
  | missing _ ho =>
      cases h' with
      | missing => rfl
      | drifted _ ho' | stale _ ho' | disabled _ ho' => simp [ho] at ho'
  | drifted hen ho _ hk =>
      cases h' with
      | missing _ ho' => simp [ho] at ho'
      | drifted _ ho' =>
          rw [ho] at ho'
          cases ho'
          rfl
      | stale _ _ hw => simp [hk, Kind.isWorkload] at hw
      | disabled hen' => simp [hen] at hen'
  | stale hen ho hw =>
      cases h' with
      | missing _ ho' => simp [ho] at ho'
      | drifted _ _ _ hk => simp [hk, Kind.isWorkload] at hw
      | stale => rfl
      | disabled hen' => simp [hen] at hen'
  | disabled hen =>
      cases h' with
      | missing hen' | drifted hen' | stale hen' => simp [hen] at hen'
      | disabled => rfl

/-- What a slot wants, it demands. -/
theorem demand (h : c.Wants v e images k a) (hk : c.Keyed) :
    c.demand (k.entry v e images) = some a := by
  cases hd : c.demand (k.entry v e images) with
  | none => exact absurd ((hk.demand_entry_eq_none_iff k).1 hd) h.not_holds
  | some b => rw [h.unique (hk.wants hd)]

/-- What the foundation calls for does not depend on the endpoint. -/
theorem of_mem_foundation (h : c.Wants v e images k a) (hk : c.Keyed) (hf : k ∈ Slot.foundation)
    (e' : Endpoint) : c.Wants v e' images k a := by
  have hd := h.demand hk
  rw [Slot.entry_of_mem_foundation v e images hf e'] at hd
  exact hk.wants hd

/-- The slot whose object was written holds. -/
theorem holds_written (h : c.Wants v e images k a) {w : Resource} (hw : a.resource? = some w)
    {n : Nat} (ho : c'.objects.find? (k.id v.ns) = some (w.stamp n)) : c'.Holds v e images k := by
  cases h with
  | missing hen =>
      cases hw
      rw [holds_iff_of_enabled hen]
      exact ⟨_, ho, Resource.agrees_stamp n⟩
  | drifted hen _ hid hk =>
      cases hw
      rw [holds_iff_of_enabled hen]
      refine ⟨_, ho, Resource.agrees_stamp_withData n (by simpa using hk) ?_⟩
      rw [← hk]
      exact congrArg Id.kind hid
  | stale | disabled => contradiction

/-- Once its action was performed, a slot holds that was not stale. -/
theorem holds_perform (h : c.Wants v e images k a) (hr : a ≠ .recreate (k.id v.ns)) :
    (c.perform a).Holds v e images k := by
  have ho := find?_perform_target (c := c) h.dependent?_ne_target
  rw [h.target] at ho
  cases hw : a.resource? with
  | some w =>
      rw [hw, Option.map_some] at ho
      exact h.holds_written hw ho
  | none =>
      rw [hw, Option.map_none] at ho
      cases h with
      | missing | drifted => cases hw
      | stale => exact absurd rfl hr
      | disabled hen => simp [holds_iff_of_disabled hen, ho]

/-- A workload that is recreated is missing after the action. -/
theorem missing_perform (h : c.Wants v e images k a) (hr : a = .recreate (k.id v.ns)) :
    (c.perform a).objects.find? (k.id v.ns) = none := by
  cases h with
  | stale => exact find?_perform_removed rfl
  | missing | drifted | disabled => contradiction

/-- The changes of an action are about its slot and the dependent one. -/
theorem follows (hw : c.Wants v e images k a) :
    c.Follows (c.perform a) (c.changes a) ∧ ∀ id ∈ (c.changes a).map (·.id),
      id = k.id v.ns ∨ ∃ l, k.dependent? = some l ∧ id = l.id v.ns := by
  refine ⟨follows_perform hw.dependent?_ne_target, fun id hid => ?_⟩
  · have ht := hw.target
    cases a with
    | create r =>
        left
        rw [← ht]
        show id = r.id
        simpa [changes] using hid
    | updatePayload r dependent =>
        simp only [changes, List.map_cons, List.map_map, List.mem_cons, List.mem_map,
          List.mem_filter, Option.mem_toList] at hid
        rcases hid with rfl | ⟨d, ⟨hd, -⟩, rfl⟩
        · exact .inl ht
        · exact .inr (hw.dependent? hd)
    | delete target | recreate target =>
        left
        rw [← ht]
        show id = target
        rw [changes] at hid
        split at hid
        · simpa using hid
        · contradiction

end Wants

end Cluster

end LogOperator
