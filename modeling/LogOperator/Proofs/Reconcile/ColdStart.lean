import LogOperator.Proofs.Reconcile.Order
import LogOperator.Proofs.Reconcile.Schedule

/-!
# LogOperator.Proofs.Reconcile.ColdStart

Passes over a pipeline in a cluster that is empty at first.  All that is scheduled there is the
creation of the desired objects, in the order of the levels (`schedule_empty`).  The Service of the
search engine is the last object of the foundation, so that its address is known before the first
consumer is built:

* `cold_start` — the course of the passes, and what they leave behind.
-/

namespace LogOperator

open Component

namespace Cluster

variable {c : Cluster} {s : Settings} {p : Pipeline} {v : ValidPipeline} {images : Images}
  {e : Endpoint} {k : Slot} {r : Resource}

/-! ## The schedule of an empty cluster -/

/-- From nothing, a slot that is switched on needs its object created. -/
theorem needs_empty_of_enabled (hen : k.enabled v = true) :
    empty.needs v e images k = [.create (k.resource v e images)] :=
  keyed_empty.needs_of_missing hen rfl

/-- Any other slot needs nothing. -/
theorem needs_empty_of_disabled (hen : k.enabled v = false) : empty.needs v e images k = [] := by
  have hnone : empty.objects.find? (k.id v.ns) = none := rfl
  refine keyed_empty.needs_of_holds (keyed_empty.doomed_eq_false fun l hl => ?_)
    ((holds_iff_of_disabled hen).2 fun r hr => ?_)
  · rw [(Slot.enabled_of_dependent? hl v).2] at hen
    contradiction
  · rw [hnone] at hr
    contradiction

/-- In an empty cluster, every desired object needs to be created. -/
theorem flatMap_needs_empty (v : ValidPipeline) (e : Endpoint) (images : Images) (ks : List Slot) :
    ks.flatMap (empty.needs v e images)
      = ((ks.filter (Slot.enabled v)).map (Slot.resource v e images)).map .create := by
  rw [flatMap_needs (f := fun r => [.create r]) (fun _ _ => needs_empty_of_enabled)
    (fun _ _ => needs_empty_of_disabled), List.map_eq_flatMap (f := Action.create)]

/-- From nothing, the schedule creates the desired objects, in order. -/
theorem schedule_empty (v : ValidPipeline) (e : Endpoint) (images : Images) :
    empty.schedule v e images = (DesiredState.build v e images).present.map .create := by
  rw [schedule, flatMap_needs_empty, Slot.present_build]

/-! ## Passes from the beginning -/

/-- Objects with identities of their own stay as they were stored when they were created. -/
theorem find?_foldl_take {rs : List Resource} (hnodup : (rs.map Resource.id).Nodup) {i j : Nat}
    (hj : rs[j]? = some r) (hij : j < i) :
    (((rs.take i).map Action.create).foldl perform c).objects.find? r.id
      = some (r.stamp (c.revision + j + 1)) := by
  obtain ⟨hlt, hget⟩ := List.getElem?_eq_some_iff.1 ((List.getElem?_take_of_lt hij).trans hj)
  have hlen : (rs.take j).length = j := by
    rw [List.length_take]
    have := (List.getElem?_eq_some_iff.1 hj).1
    omega
  have hsplit : rs.take i = rs.take j ++ r :: (rs.take i).drop (j + 1) := by
    conv => lhs; rw [← List.take_append_drop j (rs.take i)]
    rw [List.take_take, Nat.min_eq_left (Nat.le_of_lt hij), List.drop_eq_getElem_cons hlt, hget]
  have hother : ∀ w ∈ (rs.take i).drop (j + 1), w.id ≠ r.id := by
    have hsub := hnodup.sublist ((List.take_sublist i rs).map Resource.id)
    rw [hsplit, List.map_append, List.map_cons] at hsub
    obtain ⟨hnot, -⟩ := List.nodup_cons.1 (List.nodup_append.1 hsub).2.1
    exact fun w hw hid => hnot (List.mem_map.2 ⟨w, hw, hid⟩)
  rw [hsplit, List.map_append, List.map_cons, find?_foldl_create, hlen]
  intro a ha
  obtain ⟨w, hw, rfl⟩ := List.mem_map.1 ha
  exact ⟨hother w hw, nofun⟩

/-- Passes from an empty cluster create the desired objects, and then converge. -/
theorem exists_carries_empty (hv : p.validate = .ok v) (s : Settings) : ∃ e,
    Carries s p v e empty (empty.schedule v e s.images) ∧
      (v.managesSearchEngine = true → e = .assigned 5) := by
  obtain ⟨n, e, -, hlast⟩ := exists_settled keyed_empty addressed_empty hv s
  have hcarries := carries_schedule keyed_empty addressed_empty hv rfl (congrArg Prod.fst hlast)
  refine ⟨e, hcarries, fun hm => ?_⟩
  have hneeds := flatMap_needs_empty v e s.images Slot.foundation
  rw [← Slot.present_foundation, Slot.present_foundation_of_manages v e s.images hm] at hneeds
  rw [hcarries.eq_assigned keyed_empty hv hm hneeds, List.length_map]
  exact congrArg Endpoint.assigned (Nat.zero_add 5)

/-- **Cold start**: over any valid pipeline, passes from an empty cluster create the desired objects,
one each and in the order of the levels, and then converge; nothing is updated or deleted.  Each
object stays as the cluster stored it, which does not count as drift.  Once the foundation is there,
the endpoint with which the consumers are built is the external one or the address of the Service
that was created before, by the fifth write. -/
theorem cold_start (hv : p.validate = .ok v) (s : Settings) : ∃ e,
    empty.Enacts s p e ((DesiredState.build v e s.images).present.map .create) ∧
    (∀ i j r, (DesiredState.build v e s.images).present[j]? = some r → j < i →
      (empty.passes s p i).objects.find? r.id = some (r.stamp (j + 1)) ∧
        r.drift (r.stamp (j + 1)) = .none) ∧
    (v.managesSearchEngine = true → e = .assigned 5) ∧
    ∀ i, (DesiredState.foundation v s.images).present.length ≤ i →
      (empty.passes s p i).Resolves v e := by
  obtain ⟨e, hcarries, hassigned⟩ := exists_carries_empty hv s
  refine ⟨e, ?_, fun i j r hj hij => ⟨?_, r.drift_stamp (j + 1)⟩, hassigned, fun i hi => ?_⟩
  · rw [← schedule_empty]
    refine hcarries.enacts keyed_empty fun a ha => ?_
    rw [schedule_empty] at ha
    obtain ⟨r, -, rfl⟩ := List.mem_map.1 ha
    rfl
  · rw [hcarries.passes_eq, schedule_empty, ← List.map_take,
      find?_foldl_take (Slot.nodup_present v e s.images) hj hij]
    simp [empty]
  · refine .of_endpoint? (Pipeline.locates_of_validate hv)
      (hcarries.endpoint?_of_length_le keyed_empty hv ?_)
    rw [flatMap_needs_empty, List.length_map, ← Slot.present_foundation]
    exact hi

/-- The fifth pass creates the Service of the search engine, the eleventh converges. -/
theorem cold_start_selfContained :
    Pipeline.selfContained.validate = .ok Pipeline.selfContained.validated ∧
    ∃ e answer, empty.outcome .standard .selfContained 4
      = .ok (.changed (.create unaddressedService) answer Settings.standard.timing.change) ∧
    empty.outcome .standard .selfContained 10
      = .ok (.settled e Settings.standard.timing.resync) ∧
    (empty.passes .standard .selfContained 5).Resolves Pipeline.selfContained.validated e := by
  have hv := Pipeline.validate_selfContained
  obtain ⟨e, henacts, -, -, hres⟩ := cold_start hv .standard
  obtain ⟨answer, hanswer⟩ := henacts.acts 4 (.create unaddressedService) rfl
  exact ⟨hv, e, answer, hanswer, henacts.settles 10 (Nat.le_refl 10), hres 5 (Nat.le_refl 5)⟩

end Cluster

end LogOperator
