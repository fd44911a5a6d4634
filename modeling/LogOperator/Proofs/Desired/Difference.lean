import LogOperator.Proofs.Component.Fingerprint
import LogOperator.Proofs.Desired.Slot

/-!
# LogOperator.Proofs.Desired.Difference

Where two desired states differ: one has an object and the other has not, or both have one and the
two differ in what is compared, the data of ConfigMaps and the fingerprints of workloads
(`DesiredState.DiffersAt`).

* `Slot.differsAt_of_dependent` — states that differ in the data of a slot differ in the workload
  that mounts it, unless fingerprints collide.
-/

namespace LogOperator

/-! ## Agreement -/

/-- Both objects are missing, or both are there and agree. -/
def Matches (desired observed : Option Resource) : Prop :=
  Option.Rel Resource.Agrees desired observed

namespace Resource

variable {r r' x : Resource}

/-- What agrees with an object agrees with those that agree with it. -/
theorem Agrees.of_left (hx : r.Agrees x) (h : r.Agrees r') (hk : r.kind = r'.kind) : r'.Agrees x :=
  ⟨h.1.symm.trans hx.1, fun hw => (h.2 (hk ▸ hw)).symm.trans (hx.2 (hk ▸ hw))⟩

/-- Objects that agree with the same one agree with each other. -/
theorem Agrees.of_both (hx : r.Agrees x) (hx' : r'.Agrees x) (hk : r.kind = r'.kind) :
    r.Agrees r' :=
  ⟨hx.1.trans hx'.1.symm, fun hw => (hx.2 hw).trans (hx'.2 (hk ▸ hw)).symm⟩

end Resource

/-! ## Objects of a desired state -/

namespace DesiredState

variable {s s' : DesiredState} {id : Id} {r r' : Resource} {x : Option Resource}

/-- The object that a desired state has for an identity. -/
def object? (s : DesiredState) (id : Id) : Option Resource :=
  s.present.find? (·.id = id)

/-- Two desired states differ at an identity: in the presence of an object, in its data or, if it is
a workload, in its fingerprint. -/
def DiffersAt (s s' : DesiredState) (id : Id) : Prop :=
  ¬ Matches (s.object? id) (s'.object? id)

theorem id_of_object? (h : s.object? id = some r) : r.id = id := by
  simpa using List.find?_some h

/-- Objects of one identity are of one kind. -/
theorem kind_of_object? (h : s.object? id = some r) (h' : s'.object? id = some r') :
    r.kind = r'.kind := by
  have hid : r.id = r'.id := by rw [id_of_object? h, id_of_object? h']
  exact congrArg Id.kind hid

/-- What matches the object of one state matches that of another, where the two match. -/
theorem matches_of_left (hx : Matches (s.object? id) x)
    (h : Matches (s.object? id) (s'.object? id)) :
    Matches (s'.object? id) x := by
  cases hs : s.object? id with
  | none =>
      rw [hs] at hx h
      generalize s'.object? id = b at h
      cases hx
      cases h
      exact .none
  | some r =>
      cases hs' : s'.object? id with
      | none =>
          rw [hs, hs'] at h
          cases h
      | some r' =>
          rw [hs] at hx h
          rw [hs'] at h
          cases hx with
          | some hagree =>
      exact .some (hagree.of_left (Option.rel_some_some.1 h) (kind_of_object? hs hs'))

/-- Two states match where something matches the objects of both. -/
theorem matches_of_both (hx : Matches (s.object? id) x) (hx' : Matches (s'.object? id) x) :
    Matches (s.object? id) (s'.object? id) := by
  cases x with
  | none =>
      generalize s.object? id = a at hx
      generalize s'.object? id = b at hx'
      cases hx
      cases hx'
      exact .none
  | some x =>
      cases hs : s.object? id with
      | none =>
          rw [hs] at hx
          cases hx
      | some r =>
          cases hs' : s'.object? id with
          | none =>
              rw [hs'] at hx'
              cases hx'
          | some r' =>
              rw [hs] at hx
              rw [hs'] at hx'
              exact .some ((Option.rel_some_some.1 hx).of_both (Option.rel_some_some.1 hx')
                (kind_of_object? hs hs'))

end DesiredState

namespace Slot

open Component Fingerprint

variable {v v' : ValidPipeline} {e e' : Endpoint} {images images' : Images} {k l : Slot}

/-- The objects of a desired state are those of the slots that are switched on. -/
theorem mem_present {d : Resource} : d ∈ (DesiredState.build v e images).present ↔
    ∃ k : Slot, k.enabled v = true ∧ d = k.resource v e images := by
  simp only [present_build, List.mem_map, List.mem_filter, mem_all, true_and, eq_comm]

/-- A desired state has the object of a slot exactly if its component is switched on. -/
theorem object?_build (v : ValidPipeline) (e : Endpoint) (images : Images) (k : Slot) :
    (DesiredState.build v e images).object? (k.id v.ns)
      = if k.enabled v then some (k.resource v e images) else none := by
  unfold DesiredState.object?
  cases hfind : (DesiredState.build v e images).present.find? (·.id = k.id v.ns) with
  | some d =>
      obtain ⟨l, hen, rfl⟩ := mem_present.1 (List.mem_of_find?_eq_some hfind)
      have hid : (l.resource v e images).id = k.id v.ns := by simpa using List.find?_some hfind
      rw [id_resource] at hid
      rw [← id_inj hid, if_pos hen]
  | none =>
      rw [List.find?_eq_none] at hfind
      by_cases hen : k.enabled v = true
      · have hne := hfind _ (mem_present.2 ⟨k, hen, rfl⟩)
        simp at hne
      · rw [if_neg hen]

/-- It has no others. -/
theorem object?_build_eq_none {id : Id} (h : ∀ k : Slot, id ≠ k.id v.ns) :
    (DesiredState.build v e images).object? id = none := by
  rw [DesiredState.object?, List.find?_eq_none]
  intro d hd
  obtain ⟨k, -, rfl⟩ := mem_present.1 hd
  simpa using (h k).symm

/-! ## Data and the workloads that mount it -/

/-- The inputs of a workload determine the data that it mounts. -/
theorem data?_eq_of_parts? (hdep : k.dependent? = some l)
    (h : l.parts? v e images = l.parts? v' e' images') :
    (k.resource v e images).data? = (k.resource v' e' images').data? := by
  cases k with
  | aggregatorConfig =>
      cases hdep
      have hparts := Option.some.inj h
      exact congrArg some (files_inj hparts rfl)
  | collectorConfig =>
      cases hdep
      have hparts := Option.some.inj h
      exact congrArg some (files_inj hparts rfl)
  | _ => contradiction

/-- Data that is mounted, and the workload that mounts it, are part of every pipeline. -/
theorem enabled_of_dependent? (hdep : k.dependent? = some l) (v : ValidPipeline) :
    k.enabled v = true ∧ l.enabled v = true := by
  cases k with
  | aggregatorConfig | collectorConfig =>
      cases hdep
      exact ⟨rfl, rfl⟩
  | _ => contradiction

/-- **Data and fingerprint change together**: where desired states differ in data, they differ in
the workload that mounts it. -/
theorem differsAt_of_dependent (hdep : k.dependent? = some l) (hns : v'.ns = v.ns)
    (hcol : CollisionFree ((l.parts? v e images).toList ++ (l.parts? v' e' images').toList))
    (h : (DesiredState.build v e images).DiffersAt (DesiredState.build v' e' images') (k.id v.ns)) :
    (DesiredState.build v e images).DiffersAt (DesiredState.build v' e' images') (l.id v.ns) := by
  intro hl
  apply h
  have hobj := object?_build v' e' images' k
  have hobj' := object?_build v' e' images' l
  rw [hns] at hobj hobj'
  rw [object?_build, hobj', if_pos (enabled_of_dependent? hdep v).2,
    if_pos (enabled_of_dependent? hdep v').2] at hl
  rw [object?_build, hobj, if_pos (enabled_of_dependent? hdep v).1,
    if_pos (enabled_of_dependent? hdep v').1]
  obtain ⟨hkind, hw⟩ := kind_of_dependent? hdep
  cases hl with
  | some hagree =>
      have hfp := hagree.2 (by rw [kind_resource, hw])
      rw [fingerprint?_resource, fingerprint?_resource] at hfp
      have hsome := l.isSome_parts? v e images
      have hsome' := l.isSome_parts? v' e' images'
      rw [hw] at hsome hsome'
      obtain ⟨ps, hps⟩ := Option.isSome_iff_exists.1 hsome
      obtain ⟨qs, hqs⟩ := Option.isSome_iff_exists.1 hsome'
      rw [hps, hqs, Option.map_some, Option.map_some, Option.some.injEq] at hfp
      rw [hps, hqs] at hcol
      have heq : ps = qs := hcol.ofParts_inj (by simp) (by simp) hfp
      refine .some ⟨data?_eq_of_parts? hdep (by rw [hps, hqs, heq]), fun hk => ?_⟩
      rw [kind_resource, hkind] at hk
      contradiction

end Slot

end LogOperator
