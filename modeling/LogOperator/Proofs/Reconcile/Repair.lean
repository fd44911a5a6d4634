import LogOperator.Proofs.Desired.Readers
import LogOperator.Proofs.Reconcile.ColdStart

/-!
# LogOperator.Proofs.Reconcile.Repair

Objects that are removed from outside.  Let a pipeline's passes have converged, and let several of its
objects be removed then (`Cluster.evictAll`).  What is scheduled is to create these objects again
(`DesiredState.repairs`).  There is one way in which this reaches other objects: the Service of the
search engine may come back with another address (`Cluster.relocated`), and then the workloads that
are built from the endpoint are replaced (`Endpoint.displaced`):

* `schedule_evictAll` — what is scheduled once the objects are removed;
* `eq_relocated` — the endpoint with which the passes converge;
* `repaired_after_eviction` — the course of the passes.
-/

namespace LogOperator

open Component Fingerprint

/-! ## Workloads that are displaced -/

/-- The workloads in a namespace that are replaced when the endpoint becomes another one. -/
def Endpoint.displaced (ns : String) (e e' : Endpoint) : List Id :=
  if e' = e then [] else [Aggregator.workloadId ns, .inNamespace .deployment Dashboard.name ns]

/-- The identities that another endpoint displaces are those of its readers. -/
theorem Slot.id_mem_displaced_iff {ns : String} {e e' : Endpoint} {k : Slot} :
    k.id ns ∈ Endpoint.displaced ns e e' ↔ e' ≠ e ∧ k.readsEndpoint = true := by
  have hids : [Aggregator.workloadId ns, .inNamespace .deployment Dashboard.name ns]
      = endpointReaders.map (id ns) := rfl
  rw [Endpoint.displaced]
  split
  · next he => simp [he]
  · next he =>
    rw [hids, id_mem_map_iff, mem_endpointReaders_iff]
    exact (and_iff_right he).symm

/-! ## What has to be put back -/

namespace DesiredState

variable {v : ValidPipeline} {images : Images} {removed : List Id}

/-- The objects that were removed, in the order of the levels. -/
def lost (state : DesiredState) (removed : List Id) : List Resource :=
  state.present.filter (·.id ∈ removed)

theorem flatMap_ite_lost (state : DesiredState) (removed : List Id) :
    (state.present.flatMap fun r => if r.id ∈ removed then [Action.create r] else [])
      = (state.lost removed).map .create := by
  unfold lost
  induction state.present with
  | nil => rfl
  | cons r rs ih =>
      rw [List.flatMap_cons, ih]
      by_cases h : r.id ∈ removed <;> simp [h]

/-- If the Service of the search engine was removed, it is the last lost object of the foundation. -/
theorem exists_lost_foundation (images : Images) (e : Endpoint) (hm : v.managesSearchEngine = true)
    (h : SearchEngine.serviceId v.ns ∈ removed) :
    ∃ rs, (foundation v images).lost removed = rs ++ [Slot.searchService.resource v e images] := by
  have hid : (Slot.searchService.resource v e images).id ∈ removed := by
    rw [Slot.id_resource]
    exact h
  have hlast : [Slot.searchService.resource v e images].filter (·.id ∈ removed)
      = [Slot.searchService.resource v e images] := List.filter_eq_self.2 (by simpa using hid)
  rw [lost, Slot.present_foundation_of_manages v e images hm, List.filter_append, hlast]
  exact ⟨_, rfl⟩

/-- The actions that put back the objects that were removed and replace those that were displaced, in
the order of the levels. -/
def repairs (state : DesiredState) (removed displaced : List Id) : List Action :=
  state.present.flatMap fun r =>
    if r.id ∈ removed then [.create r]
    else if r.id ∈ displaced then [.recreate r.id, .create r]
    else []

/-- No data is updated for it. -/
theorem isUpdate_of_mem_repairs {state : DesiredState} {displaced : List Id} {a : Action}
    (h : a ∈ state.repairs removed displaced) : a.isUpdate = false := by
  obtain ⟨r, -, hr⟩ := List.mem_flatMap.1 h
  split at hr
  · cases List.mem_singleton.1 hr
    rfl
  · split at hr
    · rcases List.mem_pair.1 hr with rfl | rfl <;> rfl
    · contradiction

end DesiredState

namespace Cluster

variable {c : Cluster} {s : Settings} {p : Pipeline} {v : ValidPipeline} {images : Images}
  {e e' : Endpoint} {k : Slot} {removed : List Id}

/-! ## Removing several objects -/

/-- The cluster without the objects of several identities. -/
def evictAll (c : Cluster) (removed : List Id) : Cluster :=
  removed.foldl evict c

/-- What was removed is missing, and the rest is as before. -/
theorem find?_evictAll (c : Cluster) (removed : List Id) (id : Id) :
    (c.evictAll removed).objects.find? id
      = if id ∈ removed then none else c.objects.find? id := by
  induction removed generalizing c with
  | nil => rfl
  | cons gone removed ih =>
      have hstep : c.evictAll (gone :: removed) = (c.evict gone).evictAll removed := rfl
      rw [hstep, ih, find?_evict]
      by_cases hmem : id ∈ removed
      · simp [hmem]
      · by_cases hid : id = gone
        · simp [hid]
        · simp [hmem, hid, Ne.symm hid]

@[simp] theorem failures_evictAll : (c.evictAll removed).failures = c.failures := by
  induction removed generalizing c with
  | nil => rfl
  | cons gone removed ih => exact ih

@[simp] theorem revision_evictAll : (c.evictAll removed).revision = c.revision := by
  induction removed generalizing c with
  | nil => rfl
  | cons gone removed ih => exact ih

/-- What is left was there before. -/
theorem of_find?_evictAll {id : Id} {r : Resource}
    (h : (c.evictAll removed).objects.find? id = some r) : c.objects.find? id = some r := by
  rw [find?_evictAll] at h
  split at h
  · contradiction
  · exact h

theorem Keyed.evictAll (hk : c.Keyed) : (c.evictAll removed).Keyed :=
  fun id r hr => hk id r (of_find?_evictAll hr)

/-! ## The schedule once objects are removed -/

/-- What is left of a slot that does not depend on the endpoint, or whose endpoint is the same, holds
as before. -/
theorem Holds.evictAll (h : c.Holds v e images k) (hmem : k.id v.ns ∉ removed)
    (hsame : k.resource v e' images = k.resource v e images) :
    (c.evictAll removed).Holds v e' images k := by
  have hfind : (c.evictAll removed).objects.find? (k.id v.ns) = c.objects.find? (k.id v.ns) := by
    rw [find?_evictAll, if_neg hmem]
  rw [holds_congr hfind, Holds, hsame]
  exact h

/-- No data is updated: what was removed is created anew, and the rest is as desired. -/
theorem doomed_evictAll (hk : c.Keyed) (hall : ∀ k, c.Holds v e images k) :
    (c.evictAll removed).doomed v e' images k = false := by
  unfold doomed
  cases hm : k.mounted? with
  | none => rfl
  | some l =>
      rw [Option.any_some]
      by_cases hmem : l.id v.ns ∈ removed
      · have hnone : (c.evictAll removed).objects.find? (l.id v.ns) = none := by
          rw [find?_evictAll, if_pos hmem]
        cases hd : (c.evictAll removed).demand (l.entry v e' images) with
        | none => rfl
        | some a =>
            obtain ⟨r, rfl⟩ := hk.evictAll.demand_of_missing hnone hd
            rfl
      · have hreads : l.readsEndpoint = false := by
          cases hr : l.readsEndpoint with
          | false => rfl
          | true =>
              have hw := Slot.isWorkload_of_readsEndpoint hr
              rw [(Slot.kind_of_dependent? (Slot.mounted?_eq_some_iff.1 hm)).1] at hw
              contradiction
        have hholds : (c.evictAll removed).Holds v e' images l :=
          (hall l).evictAll hmem (Slot.resource_of_not_readsEndpoint hreads)
        rw [(hk.evictAll.demand_entry_eq_none_iff l).2 hholds, Option.any_none]

/-- A slot whose object is still the desired one needs it to be created, if it was removed. -/
theorem needs_evictAll_of_same (hk : c.Keyed) (hall : ∀ k, c.Holds v e images k)
    (hen : k.enabled v = true) (hsame : k.resource v e' images = k.resource v e images) :
    (c.evictAll removed).needs v e' images k =
      if k.id v.ns ∈ removed then [.create (k.resource v e' images)] else [] := by
  split
  · next hmem => exact hk.evictAll.needs_of_missing hen (by rw [find?_evictAll, if_pos hmem])
  · next hmem =>
    exact hk.evictAll.needs_of_holds (doomed_evictAll hk hall) ((hall k).evictAll hmem hsame)

/-- **What a slot needs after a removal**: its object created if it was removed, recreated if the
endpoint that it reads has moved, and else nothing. -/
theorem needs_evictAll_of_enabled (hk : c.Keyed) (hall : ∀ k, c.Holds v e images k)
    (hcol : CollisionFree ((k.parts? v e images).toList ++ (k.parts? v e' images).toList))
    (hen : k.enabled v = true) : (c.evictAll removed).needs v e' images k =
      if k.id v.ns ∈ removed then [.create (k.resource v e' images)]
      else if k.id v.ns ∈ Endpoint.displaced v.ns e e' then
        [.recreate (k.id v.ns), .create (k.resource v e' images)]
      else [] := by
  by_cases hdis : e' ≠ e ∧ k.readsEndpoint = true
  · rw [if_pos (Slot.id_mem_displaced_iff.2 hdis)]
    split
    · next hmem => exact hk.evictAll.needs_of_missing hen (by rw [find?_evictAll, if_pos hmem])
    · next hmem =>
      -- the workload is there, but was built from the endpoint as it was before
      have hw := Slot.isWorkload_of_readsEndpoint hdis.2
      obtain ⟨r, hr, -, hfp⟩ := (holds_iff_of_enabled hen).1 (hall k)
      have hstale : (c.evictAll removed).Wants v e' images k (.recreate (k.id v.ns)) := by
        refine .stale hen (by rw [find?_evictAll, if_neg hmem, hr]) hw ?_
        rw [← hfp (by rw [Slot.kind_resource, hw])]
        exact Slot.fingerprint?_ne hdis.2 hdis.1 hcol
      rw [needs_of_not_doomed (doomed_evictAll hk hall), hstale.demand hk.evictAll]
      rfl
  · rw [if_neg fun hmem => hdis (Slot.id_mem_displaced_iff.1 hmem)]
    refine needs_evictAll_of_same hk hall hen ?_
    by_cases he : e' = e
    · rw [he]
    · exact Slot.resource_of_not_readsEndpoint (by simpa [he] using hdis)

theorem needs_evictAll_of_disabled (hk : c.Keyed) (hall : ∀ k, c.Holds v e images k)
    (hen : k.enabled v = false) : (c.evictAll removed).needs v e' images k = [] := by
  refine hk.evictAll.needs_of_holds (doomed_evictAll hk hall) ?_
  rw [holds_iff_of_disabled hen]
  exact fun r hr => (holds_iff_of_disabled hen).1 (hall k) r (of_find?_evictAll hr)

/-- What is scheduled is to put back what was removed, and to replace what was displaced. -/
theorem schedule_evictAll (hk : c.Keyed) (hall : ∀ k, c.Holds v e images k)
    (hcol : ∀ k : Slot, k.enabled v = true →
      CollisionFree ((k.parts? v e images).toList ++ (k.parts? v e' images).toList)) :
    (c.evictAll removed).schedule v e' images
      = (DesiredState.build v e' images).repairs removed (Endpoint.displaced v.ns e e') := by
  rw [schedule, flatMap_needs (fun k _ hen => ?_) (fun k _ => needs_evictAll_of_disabled hk hall),
    ← Slot.present_build]
  · rfl
  · rw [needs_evictAll_of_enabled hk hall (hcol k hen) hen, Slot.id_resource]

/-! ## The endpoint once objects are removed -/

/-- What the foundation needs is that its removed objects are created. -/
theorem flatMap_needs_foundation (e' : Endpoint) (removed : List Id) (hk : c.Keyed)
    (hall : ∀ k, c.Holds v e images k) :
    Slot.foundation.flatMap ((c.evictAll removed).needs v e' images)
      = ((DesiredState.foundation v images).lost removed).map .create := by
  rw [← DesiredState.flatMap_ite_lost, Slot.present_foundation v e' images]
  refine flatMap_needs (fun k hmem hen => ?_) fun k _ => needs_evictAll_of_disabled hk hall
  rw [needs_evictAll_of_same hk hall hen (Slot.resource_of_not_readsEndpoint
    (Slot.not_readsEndpoint_of_mem_foundation hmem)), Slot.id_resource]

/-- Where the search engine is after objects were removed and put back: a Service that is created anew
gets the address of the revision of its write. -/
def relocated (c : Cluster) (v : ValidPipeline) (images : Images) (e : Endpoint)
    (removed : List Id) : Endpoint :=
  if v.managesSearchEngine = true ∧ SearchEngine.serviceId v.ns ∈ removed then
    .assigned (c.revision + ((DesiredState.foundation v images).lost removed).length)
  else e

/-- Once the foundation was put back, the search engine is there. -/
theorem Carries.eq_relocated (hk : c.Keyed) (hv : p.validate = .ok v)
    (he : c.endpoint? v = some e) (hall : ∀ k, c.Holds v e s.images k)
    (h : Carries s p v e' (c.evictAll removed)
      ((c.evictAll removed).schedule v e' s.images)) :
    e' = c.relocated v s.images e removed := by
  have hneeds := flatMap_needs_foundation e' removed hk hall
  have hback := h.endpoint?_of_length_le hk.evictAll hv (Nat.le_refl _)
  rcases Resolves.of_endpoint? (Pipeline.locates_of_validate hv) he with ⟨hm, hx⟩ | ⟨hm, -, -, -⟩
  · -- an external endpoint does not depend on the cluster
    rw [endpoint?, hx] at hback
    rw [relocated, if_neg (by simp [hm]), Option.some.inj hback]
  · by_cases hmem : SearchEngine.serviceId v.ns ∈ removed
    · obtain ⟨rs, hlost⟩ := DesiredState.exists_lost_foundation s.images e' hm hmem
      rw [hlost] at hneeds
      rw [relocated, if_pos ⟨hm, hmem⟩, hlost, List.length_append, List.length_singleton,
        h.eq_assigned hk.evictAll hv hm hneeds, revision_evictAll]
    · rw [relocated, if_neg (by simp [hmem])]
      rw [h.passes_eq, schedule, Slot.all, List.flatMap_append, List.take_left, hneeds,
        endpoint?_congr (find?_foldl_perform fun a ha => ?_), endpoint?_congr (c := c), he] at hback
      · exact (Option.some.inj hback).symm
      · rw [find?_evictAll]
        exact if_neg hmem
      · obtain ⟨r, hr, rfl⟩ := List.mem_map.1 ha
        have hr : r.id ∈ removed := by simpa using (List.mem_filter.1 hr).2
        refine ⟨fun hid => hmem ?_, fun hdependent => ?_⟩
        · have hid : r.id = SearchEngine.serviceId v.ns := hid
          exact hid ▸ hr
        · cases hdependent

/-- **Evicted objects are put back, and nothing else changes**, except where the address of the search
engine does.  Let no failures be pending and a pass have converged, and let any objects be removed
then.  Passes create the desired ones among them, one each and in the order of the levels, and
converge.  If the Service of the search engine was among them and its new address is another one, each
workload that is built from the endpoint and still there is deleted by one pass and created by the
next. -/
theorem repaired_after_eviction (hk : c.Keyed) (hf : c.failures = []) (hv : p.validate = .ok v)
    (hlast : (c.reconcile s p).1 = .ok (.settled e s.timing.resync)) (removed : List Id)
    (hcol : ∀ k : Slot, k.enabled v = true → CollisionFree ((k.parts? v e s.images).toList
      ++ (k.parts? v (c.relocated v s.images e removed) s.images).toList)) :
    (c.evictAll removed).Enacts s p (c.relocated v s.images e removed)
      ((DesiredState.build v (c.relocated v s.images e removed) s.images).repairs removed
        (Endpoint.displaced v.ns e (c.relocated v s.images e removed))) ∧
    ∀ i, ((DesiredState.foundation v s.images).lost removed).length ≤ i →
      ((c.evictAll removed).passes s p i).Resolves v (c.relocated v s.images e removed) := by
  obtain ⟨he, hall⟩ := holds_of_settled (n := 0) hk hv hlast (Nat.le_refl 0)
  have hloc := Pipeline.locates_of_validate hv
  have hk' : (c.evictAll removed).Keyed := hk.evictAll
  have hf' : (c.evictAll removed).failures = [] := failures_evictAll.trans hf
  have hs' : (c.evictAll removed).Addressed v := by
    intro hm r hr
    rcases Resolves.of_endpoint? hloc he with ⟨hm', -⟩ | ⟨-, hr', ha, -⟩
    · rw [hm] at hm'
      contradiction
    · cases hr'.symm.trans (of_find?_evictAll hr)
      exact ⟨_, ha⟩
  obtain ⟨n, e', -, hpass⟩ := exists_settled hk' hs' hv s
  have hcarries := carries_schedule hk' hs' hv hf' (congrArg Prod.fst hpass)
  have hlen : ((DesiredState.foundation v s.images).lost removed).length
      = (Slot.foundation.flatMap ((c.evictAll removed).needs v e' s.images)).length := by
    rw [flatMap_needs_foundation _ _ hk hall, List.length_map]
  have heq := hcarries.eq_relocated hk hv he hall
  subst heq
  refine ⟨?_, fun i hi => .of_endpoint? hloc (hcarries.endpoint?_of_length_le hk' hv (hlen ▸ hi))⟩
  rw [← schedule_evictAll hk hall hcol]
  refine hcarries.enacts hk' fun a ha => ?_
  rw [schedule_evictAll hk hall hcol] at ha
  exact DesiredState.isUpdate_of_mem_repairs ha

/-! ## The Service of a search engine is removed -/

/-- A cluster in which passes over the self-contained pipeline have converged. -/
def contained : Cluster :=
  empty.passes .standard .selfContained 10

/-- The Service of the search engine, and data that is mounted. -/
def severed : List Id :=
  [Slot.searchService.id "logging", Slot.aggregatorConfig.id "logging"]

/-- The first cluster has converged with its Service at the fifth address. -/
theorem contained_spec : contained.revision = 10 ∧
    (contained.reconcile .standard .selfContained).1
      = .ok (.settled (.assigned 5) Settings.standard.timing.resync) := by
  obtain ⟨e, hcarries, hassigned⟩ := exists_carries_empty Pipeline.validate_selfContained .standard
  cases hassigned rfl
  rw [schedule_empty] at hcarries
  have hlast := (hcarries.outcome_of_length_le (Nat.le_refl 10)).1
  rw [outcome] at hlast
  refine ⟨?_, hlast⟩
  rw [contained]
  rw [hcarries.passes_eq, List.take_of_length_le (Nat.le_refl 10), revision_foldl_create]
  rfl

theorem relocated_contained : contained.relocated Pipeline.selfContained.validated
    Settings.standard.images (.assigned 5) severed = .assigned 11 := by
  have hmem : SearchEngine.serviceId Pipeline.selfContained.validated.ns ∈ severed :=
    List.mem_cons_self
  have hlost : ((DesiredState.foundation Pipeline.selfContained.validated
      Settings.standard.images).lost severed).length = 1 := rfl
  rw [relocated, if_pos ⟨rfl, hmem⟩, contained_spec.1, hlost]

theorem sized_contained {k : Slot} {e : Endpoint} {ps : List String}
    (he : e ∈ [Endpoint.assigned 5, .assigned 11])
    (h : k.parts? Pipeline.selfContained.validated e .standard = some ps) : Sized ps := by
  have hall : ∀ e ∈ [Endpoint.assigned 5, .assigned 11], ∀ k ∈ Slot.all,
      ∀ ps ∈ k.parts? Pipeline.selfContained.validated e .standard, Sized ps := by
    decide +kernel
  exact hall e he k k.mem_all ps h

/-- The aggregator's fingerprints for the two addresses are different. -/
theorem digest_ne_contained :
    Sha256.digest (framed (Aggregator.parts
      (RoutingTable.ofValid Pipeline.selfContained.validated).aggregatorFiles (.assigned 5)
      .standard)) ≠
    Sha256.digest (framed (Aggregator.parts
      (RoutingTable.ofValid Pipeline.selfContained.validated).aggregatorFiles (.assigned 11)
      .standard)) := by
  decide +kernel

theorem collisionFree_contained (k : Slot) (hen : k.enabled Pipeline.selfContained.validated = true) :
    CollisionFree (
      (k.parts? Pipeline.selfContained.validated (.assigned 5) .standard).toList
        ++ (k.parts? Pipeline.selfContained.validated (.assigned 11) .standard).toList) := by
  by_cases hk : k = .aggregatorWorkload
  · subst hk
    exact collisionFree_pair (sized_contained (k := .aggregatorWorkload) (by simp) rfl)
      (sized_contained (k := .aggregatorWorkload) (by simp) rfl) digest_ne_contained
  · have hsame : k.parts? Pipeline.selfContained.validated (.assigned 11) .standard
        = k.parts? Pipeline.selfContained.validated (.assigned 5) .standard := by
      cases k <;> first | contradiction | rfl
    rw [hsame]
    cases hps : k.parts? Pipeline.selfContained.validated (.assigned 5) .standard with
    | none => exact ⟨by simp, by simp⟩
    | some ps => exact collisionFree_of_forall_eq (sized_contained (by simp) hps) (by simp)

/-- The Service is put back first and gets another address; so the aggregator's workload is replaced
after its data was put back. -/
theorem repaired_after_eviction_selfContained :
    contained.Keyed ∧ contained.failures = [] ∧
    Pipeline.selfContained.validate = .ok Pipeline.selfContained.validated ∧
    (contained.reconcile .standard .selfContained).1
      = .ok (.settled (.assigned 5) Settings.standard.timing.resync) ∧
    (∀ k : Slot, k.enabled Pipeline.selfContained.validated = true → CollisionFree (
      (k.parts? Pipeline.selfContained.validated (.assigned 5) .standard).toList
        ++ (k.parts? Pipeline.selfContained.validated (.assigned 11) .standard).toList)) ∧
    (∃ answer, (contained.evictAll severed).outcome .standard .selfContained 2 = .ok (.changed
      (.recreate (Slot.aggregatorWorkload.id "logging")) answer Settings.standard.timing.change)) ∧
    (contained.evictAll severed).outcome .standard .selfContained 4
      = .ok (.settled (.assigned 11) Settings.standard.timing.resync) := by
  have hv := Pipeline.validate_selfContained
  have hk : contained.Keyed := keyed_empty.passes _ _ _
  have hf : contained.failures = [] :=
    (outcome_of_no_failures keyed_empty addressed_empty hv rfl .standard 10).2
  have hlast := contained_spec.2
  have hcol := collisionFree_contained
  obtain ⟨henacts, -⟩ := repaired_after_eviction hk hf hv hlast severed
    (relocated_contained ▸ hcol)
  rw [relocated_contained] at henacts
  exact ⟨hk, hf, hv, hlast, hcol, henacts.acts 2 _ rfl, henacts.settles 4 (Nat.le_refl 4)⟩

end Cluster

end LogOperator
