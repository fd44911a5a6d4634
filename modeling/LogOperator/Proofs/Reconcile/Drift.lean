import LogOperator.Proofs.Reconcile.Demand

/-!
# LogOperator.Proofs.Reconcile.Drift

What counts as drift, and that one action repairs it.  Two objects of one identity are compared by the
data of ConfigMaps and by the fingerprints of workloads; whatever else the cluster or others wrote is
kept:

* `Resource.sameCase_drift` — what a comparison looks at;
* `Resource.eq_of_drift` — the object that a ConfigMap is updated with;
* `Cluster.KeyedAt.demand_perform`, `Cluster.KeyedAt.demand_recreated` — what an entry calls for once its
  action was performed;
* `Cluster.drift_repaired` — both together.
-/

namespace LogOperator

/-! ## Comparing -/

/-- Two comparisons come out as the same case, whatever a ConfigMap is to be updated with. -/
def Drift.SameCase : Drift → Drift → Prop
  | .none, .none | .payload _, .payload _ | .stale, .stale => True
  | _, _ => False

namespace Resource

variable {desired observed observed' updated : Resource}

theorem drift_self (r : Resource) : r.drift r = .none :=
  (drift_eq_none_iff_agrees rfl).2 ⟨rfl, fun _ => rfl⟩

/-- Of an observed ConfigMap only the data tells the case, and of an observed workload only the
fingerprint. -/
theorem sameCase_drift (hk : desired.kind = observed.kind) (hk' : desired.kind = observed'.kind)
    (hdata : desired.kind = .configMap → observed.data? = observed'.data?)
    (hfp : desired.kind.isWorkload = true → observed.fingerprint? = observed'.fingerprint?) :
    (desired.drift observed).SameCase (desired.drift observed') := by
  have hsame : observed.data? = observed'.data? := by
    by_cases hc : desired.kind = .configMap
    · exact hdata hc
    · rw [data?_of_kind (hk ▸ hc), data?_of_kind (hk' ▸ hc)]
  rw [drift_eq hk, drift_eq hk', hsame]
  by_cases hd : desired.data? ≠ observed'.data?
  · rw [if_pos hd, if_pos hd]
    trivial
  · rw [if_neg hd, if_neg hd]
    by_cases hw : desired.kind.isWorkload = true
    · rw [hfp hw]
      split <;> trivial
    · simp only [hw]
      trivial

/-- A ConfigMap is updated with the observed object, of which only the data is replaced. -/
theorem eq_of_drift (hk : desired.kind = observed.kind)
    (h : desired.drift observed = .payload updated) :
    desired.kind = .configMap ∧ updated = observed.withData desired.data? := by
  rw [drift_eq hk] at h
  split at h
  · next hd =>
    refine ⟨Decidable.byContradiction fun hne => hd ?_, (Drift.payload.inj h).symm⟩
    rw [data?_of_kind hne, data?_of_kind (hk ▸ hne)]
  · split at h <;> contradiction

/-- A ConfigMap consists of its data and of what is carried along. -/
theorem exists_content_of_kind {r : Resource} (hk : r.kind = .configMap) :
    ∃ data rest, r.content = .configMap data rest ∧
      ∀ data', r.withData data' = { r with content := .configMap data' rest } := by
  obtain ⟨m, content⟩ := r
  cases content with
  | configMap data rest => exact ⟨data, rest, rfl, fun _ => rfl⟩
  | _ => contradiction

end Resource

/-! ## Repairing -/

namespace Cluster

variable {c : Cluster} {x : Entry} {a : Action}

/-- Once the action of an entry was performed, its object is the one that was written, if one was, and
else gone. -/
theorem KeyedAt.find?_perform (hk : c.KeyedAt x.id) (hx : x.dependent? ≠ some x.id)
    (h : c.demand x = some a) :
    (c.perform a).objects.find? x.id = a.resource?.map (·.stamp (c.revision + 1)) := by
  rw [← (hk.target_of_demand h).1]
  exact find?_perform_target (hk.dependent?_ne_target hx h)

/-- After its action an entry calls for nothing more, unless a stale workload was removed. -/
theorem KeyedAt.demand_perform (hk : c.KeyedAt x.id) (hx : x.dependent? ≠ some x.id)
    (h : c.demand x = some a) (hr : ∀ id, a ≠ .recreate id) : (c.perform a).demand x = none := by
  rw [demand, hk.find?_perform hx h]
  have hc := hk.calls h
  generalize hobs : c.objects.find? x.id = observed at hc
  cases hc with
  | missing r dependent =>
      refine (Entry.ensure_present_eq_none_iff ?_).2 ⟨_, rfl, Resource.agrees_stamp _⟩
      rintro _ ⟨⟩
      exact Resource.id_stamp _ r
  | @drifted r current dependent hmap hcur =>
      have hid : current.id = r.id := hk _ hobs
      refine (Entry.ensure_present_eq_none_iff ?_).2
        ⟨_, rfl, Resource.agrees_stamp_withData _ hmap hcur⟩
      rintro _ ⟨⟩
      rw [Resource.id_stamp, Resource.id_withData, hid]
  | stale => exact absurd rfl (hr _)
  | disabled => rfl

/-- Once a stale workload was removed, its entry calls for creating it. -/
theorem KeyedAt.demand_recreated {id : Id} (hk : c.KeyedAt x.id) (hx : x.dependent? ≠ some x.id)
    (h : c.demand x = some (.recreate id)) :
    ∃ r dependent, x = .present r dependent ∧
      (c.perform (.recreate id)).demand x = some (.create r) := by
  have hfind := hk.find?_perform hx h
  have hc := hk.calls h
  generalize c.objects.find? x.id = observed at hc
  cases hc with
  | stale =>
      rw [demand, hfind]
      exact ⟨_, _, rfl, rfl⟩

/-- **Drift is what it should be, and is repaired.**  Two objects of one identity differ by the data of
ConfigMaps and by the fingerprints of workloads only, and an object never differs from itself.  A ConfigMap
is updated with the observed object, of which nothing but the data is replaced, and which has drifted no
more, also as the cluster stamps it.  The action that an entry calls for succeeds exactly if none of its
calls is made to fail; then the entry calls for nothing more, or, if a stale workload was removed, for
creating it, which succeeds likewise, and after that for nothing more. -/
theorem drift_repaired :
    (∀ desired observed : Resource, observed.id = desired.id →
      desired.drift desired = .none ∧
      (∀ observed' : Resource, observed'.id = desired.id →
        (desired.kind = .configMap → observed.data? = observed'.data?) →
        (desired.kind.isWorkload = true → observed.fingerprint? = observed'.fingerprint?) →
        (desired.drift observed).SameCase (desired.drift observed')) ∧
      ∀ updated, desired.drift observed = .payload updated →
        (∃ data rest, observed.content = .configMap data rest ∧
          updated = { observed with content := .configMap desired.data? rest }) ∧
        updated.id = observed.id ∧
        updated.metadata.resourceVersion = observed.metadata.resourceVersion ∧
        desired.drift updated = .none ∧ ∀ n, desired.drift (updated.stamp n) = .none) ∧
    ∀ (c : Cluster) (x : Entry) (a : Action), c.KeyedAt x.id → x.dependent? ≠ some x.id →
      c.demand x = some a →
      ((∃ c', c.apply a = (.ok (), c')) ↔ ∀ call ∈ a.calls, call ∉ c.failures) ∧
      ∀ c', c.apply a = (.ok (), c') →
        ((∀ id, a ≠ .recreate id) → c'.demand x = none) ∧
        ∀ id, a = .recreate id → ∃ r dependent, x = .present r dependent ∧
          c'.demand x = some (.create r) ∧
          ((∃ c'', c'.apply (.create r) = (.ok (), c'')) ↔ (.create, r.id) ∉ c.failures) ∧
          ∀ c'', c'.apply (.create r) = (.ok (), c'') → c''.demand x = none := by
  refine ⟨fun desired observed hid => ?_, fun c x a hk hx ha => ?_⟩
  · have hkind : desired.kind = observed.kind := Resource.kind_eq_of_id hid
    refine ⟨desired.drift_self, fun observed' hid' => ?_, fun updated hu => ?_⟩
    · exact Resource.sameCase_drift hkind (Resource.kind_eq_of_id hid')
    · obtain ⟨hmap, rfl⟩ := Resource.eq_of_drift hkind hu
      have hcur : observed.kind = .configMap := hkind ▸ hmap
      obtain ⟨data, rest, hcontent, hwith⟩ := Resource.exists_content_of_kind hcur
      refine ⟨⟨data, rest, hcontent, hwith _⟩, by simp, by simp, ?_, fun n => ?_⟩
      · rw [Resource.drift_eq_none_iff_agrees (by simpa using hkind)]
        exact Resource.agrees_withData hmap hcur
      · rw [Resource.drift_eq_none_iff_agrees (by simpa using hkind)]
        exact Resource.agrees_stamp_withData n hmap hcur
  · have hok (c' : Cluster) : c.apply a = (.ok (), c') ↔ _ :=
      apply_eq_ok_iff (hk.target_of_demand ha).2
    refine ⟨by simp [hok], fun c' hc' => ?_⟩
    obtain ⟨-, rfl⟩ := (hok c').1 hc'
    refine ⟨hk.demand_perform hx ha, ?_⟩
    rintro id rfl
    obtain ⟨r, dependent, hx', hnext⟩ := hk.demand_recreated hx ha
    have hk' : (c.perform (.recreate id)).KeyedAt x.id := by
      intro o ho
      rw [hk.find?_perform hx ha] at ho
      contradiction
    have hok' (c'' : Cluster) : (c.perform (.recreate id)).apply (.create r) = (.ok (), c'') ↔ _ :=
      apply_eq_ok_iff (hk'.target_of_demand hnext).2
    refine ⟨r, dependent, hx', hnext, ?_, fun c'' hc'' => ?_⟩
    · simp [hok', Action.calls, Action.operation, Action.target, Action.dependent?]
    · obtain ⟨-, rfl⟩ := (hok' c'').1 hc''
      exact hk'.demand_perform hx hnext (by simp)

/-! ### A cluster with drift -/

/-- A ConfigMap with parsers, at a version that the cluster gave it. -/
def parsers (text : String) (version : Option String) : Resource where
  metadata := { Metadata.empty with
    name := some "parsers", ns := some "logs", resourceVersion := version }
  content := .configMap (some (Dict.empty.insert "parsers.conf" text)) []

/-- The workload that mounts it. -/
def shipper (fingerprint : String) : Resource where
  metadata := { Metadata.empty with
    name := some "shipper", ns := some "logs"
    annotations := some (Dict.empty.insert Resource.fingerprintAnnotation fingerprint) }
  content := .deployment none []

/-- Both as they must be. -/
def parsersEntry : Entry :=
  .present (parsers "new" none) (some (shipper "new").id)

def shipperEntry : Entry :=
  .present (shipper "new") none

/-- Both are there, as they once were. -/
def outdated : Cluster :=
  (empty.seed (parsers "old" (some "42"))).seed (shipper "old")

theorem keyed_outdated : outdated.Keyed :=
  keyed_empty.seed.seed

/-- The parsers are updated at the version that they have. -/
theorem demand_outdated_parsers : outdated.demand parsersEntry
    = some (.updatePayload (parsers "new" (some "42")) (some (shipper "new").id)) := by
  have hfind : outdated.objects.find? parsersEntry.id = some (parsers "old" (some "42")) := by
    rw [outdated, find?_seed, if_neg (by decide), find?_seed]
    exact if_pos rfl
  rw [demand, hfind]
  rfl

/-- The workload is recreated because of its fingerprint. -/
theorem demand_outdated_shipper :
    outdated.demand shipperEntry = some (.recreate (shipper "new").id) := by
  have hfind : outdated.objects.find? shipperEntry.id = some (shipper "old") := by
    rw [outdated, find?_seed]
    exact if_pos rfl
  rw [demand, hfind]
  rfl

/-- The parsers are updated in place; the workload is deleted, and then created. -/
theorem drift_repaired_outdated :
    (parsers "new" none).drift (parsers "old" (some "42")) = .payload (parsers "new" (some "42")) ∧
    (∀ n, (parsers "new" none).drift ((parsers "new" (some "42")).stamp n) = .none) ∧
    outdated.demand parsersEntry
      = some (.updatePayload (parsers "new" (some "42")) (some (shipper "new").id)) ∧
    (∃ c, outdated.apply (.updatePayload (parsers "new" (some "42")) (some (shipper "new").id))
      = (.ok (), c) ∧ c.demand parsersEntry = none) ∧
    outdated.demand shipperEntry = some (.recreate (shipper "new").id) ∧
    ∃ c, outdated.apply (.recreate (shipper "new").id) = (.ok (), c) ∧
      c.demand shipperEntry = some (.create (shipper "new")) ∧
      ∃ c', c.apply (.create (shipper "new")) = (.ok (), c') ∧ c'.demand shipperEntry = none := by
  obtain ⟨hcompare, hrepair⟩ := drift_repaired
  have hdrift : (parsers "new" none).drift (parsers "old" (some "42"))
      = .payload (parsers "new" (some "42")) := rfl
  obtain ⟨-, -, hpayload⟩ := hcompare (parsers "new" none) (parsers "old" (some "42")) rfl
  obtain ⟨-, -, -, -, hstamped⟩ := hpayload _ hdrift
  -- No failure is asked for, so that every action succeeds.
  have hnone : outdated.failures = [] := rfl
  obtain ⟨hupdates, hupdated⟩ := hrepair outdated parsersEntry _ (keyed_outdated _) (by decide)
    demand_outdated_parsers
  obtain ⟨c, hc⟩ := hupdates.2 (by simp [hnone])
  obtain ⟨hremoves, hremoved⟩ := hrepair outdated shipperEntry _ (keyed_outdated _) nofun
    demand_outdated_shipper
  obtain ⟨d, hd⟩ := hremoves.2 (by simp [hnone])
  obtain ⟨r, dependent, hr, hnext, hcreates, hcreated⟩ := (hremoved d hd).2 _ rfl
  obtain ⟨rfl, rfl⟩ := Entry.present.inj hr
  obtain ⟨d', hd'⟩ := hcreates.2 (by simp [hnone])
  exact ⟨hdrift, hstamped, demand_outdated_parsers, ⟨c, hc, (hupdated c hc).1 nofun⟩,
    demand_outdated_shipper, d, hd, hnext, d', hd', hcreated d' hd'⟩

end Cluster

end LogOperator
