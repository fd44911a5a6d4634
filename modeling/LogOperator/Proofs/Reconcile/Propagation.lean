import LogOperator.Proofs.Config.Patterns
import LogOperator.Proofs.Reconcile.Restart
import LogOperator.Proofs.Reconcile.Tenancy

/-!
# LogOperator.Proofs.Reconcile.Propagation

How an edit of a pipeline gets to the pods.  Data that is not as desired any more is updated in one
pass, together with the deletion of the workload that mounts it, and the next pass creates the
workload anew.  An edit of the patterns of parsers is of this kind: it only concerns the data of the
collector, and there only the file that defines the parsers.

* `settled_of_drifted` — what two passes do about data that is not as desired;
* `Slot.resource_withParsers` — the objects that do not depend on patterns;
* `pattern_edit_propagates` — what an edit of patterns changes, and in which order.
-/

namespace LogOperator

namespace Cluster

variable {c : Cluster} {s : Settings} {p : Pipeline} {v : ValidPipeline} {e : Endpoint} {k l : Slot}
  {current : Resource}

/-! ## Data that is not as desired -/

/-- A pass that finds the data of a slot not as desired updates it and deletes the workload that
mounts it; all else stays as it was. -/
theorem reconcile_of_drifted_data (hk : c.Keyed) (hf : c.failures = []) (hv : p.validate = .ok v)
    (hl : k.dependent? = some l) (he : c.endpoint? v = some e)
    (hothers : ∀ j, j ≠ k → j ≠ l → c.Holds v e s.images j)
    (ho : c.objects.find? (k.id v.ns) = some current)
    (hd : (k.resource v e s.images).data? ≠ current.data?)
    (hw : c.objects.contains (l.id v.ns) = true) :
    ∃ r, (c.reconcile s p).1 = .ok r ∧ r.converged = false ∧ (c.reconcile s p).2.failures = [] ∧
      c.Follows (c.reconcile s p).2 [⟨.update, k.id v.ns⟩, ⟨.delete, l.id v.ns⟩] ∧
      (c.reconcile s p).2.objects.find? (l.id v.ns) = none ∧
      ∀ j, j ≠ l → (c.reconcile s p).2.Holds v e s.images j := by
  have hwants : c.Wants v e s.images k _ :=
    .drifted (Slot.enabled_of_dependent? hl v).1 ho (hk _ _ ho) (Slot.kind_of_dependent? hl).1 hd
  rw [hl, Option.map_some] at hwants
  generalize current.withData _ = updated at hwants
  have hbefore : ∀ j ∈ k.before, c.Holds v e s.images j := fun j hj =>
    hothers j (Slot.ne_of_mem_before hj)
      (Slot.ne_of_mem_before (Slot.before_trans hj (Slot.mem_before_of_dependent? hl)))
  obtain ⟨answer, hpass⟩ :=
    reconcile_of_wants (s := s) hk hf hv (Slot.mem_consumers_of_dependent? hl) he hbefore hwants
  have hchanges : c.changes (.updatePayload updated (some (l.id v.ns)))
      = [⟨.update, k.id v.ns⟩, ⟨.delete, l.id v.ns⟩] := by
    have hid : updated.id = k.id v.ns := hwants.target
    simp [changes, hid, hw]
  have hfollows := hwants.follows.1
  rw [hchanges] at hfollows
  rw [hpass]
  refine ⟨_, rfl, rfl, (failures_perform c _).trans hf, hfollows, find?_perform_removed rfl, ?_⟩
  intro j hj
  by_cases hjk : j = k
  · rw [hjk]
    exact hwants.holds_perform (by simp)
  · refine (holds_congr (hfollows.frame _ ?_)).2 (hothers j hjk hj)
    simpa using ⟨Slot.id_ne hjk, Slot.id_ne hj⟩

/-- A pass that only finds the object of a slot missing creates it; then nothing is left to do. -/
theorem reconcile_of_missing (hk : c.Keyed) (hf : c.failures = []) (hv : p.validate = .ok v)
    (hc : k ∈ Slot.consumers) (hen : k.enabled v = true) (he : c.endpoint? v = some e)
    (hothers : ∀ j, j ≠ k → c.Holds v e s.images j) (ho : c.objects.find? (k.id v.ns) = none) :
    ∃ r, (c.reconcile s p).1 = .ok r ∧ r.converged = false ∧ (c.reconcile s p).2.failures = [] ∧
      c.Follows (c.reconcile s p).2 [⟨.create, k.id v.ns⟩] ∧
      (c.reconcile s p).2.Settled v s.images e := by
  have hwants : c.Wants v e s.images k _ := .missing hen ho
  have hbefore : ∀ j ∈ k.before, c.Holds v e s.images j := fun j hj =>
    hothers j (Slot.ne_of_mem_before hj)
  obtain ⟨answer, hpass⟩ := reconcile_of_wants (s := s) hk hf hv hc he hbefore hwants
  have hchanges : c.changes (.create (k.resource v e s.images)) = [⟨.create, k.id v.ns⟩] := by
    simp [changes]
  have hfollows := hwants.follows.1
  rw [hchanges] at hfollows
  rw [hpass]
  refine ⟨_, rfl, rfl, (failures_perform c _).trans hf, hfollows, ⟨?_, fun j => ?_⟩⟩
  · rw [endpoint?_congr (hfollows.frame _ ?_)]
    · exact he
    · have hne : Slot.searchService ≠ k := by
        rintro rfl
        exact absurd hc (by decide)
      simpa using Slot.id_ne hne
  · by_cases hjk : j = k
    · rw [hjk]
      exact hwants.holds_perform (by simp)
    · refine (holds_congr (hfollows.frame _ ?_)).2 (hothers j hjk)
      simpa using Slot.id_ne hjk

/-- **Data and the workload that mounts it.** Where a pipeline has nothing left to do but to update
the data of a slot, two passes settle it: they update the data and delete the workload, and create
the workload anew. -/
theorem settled_of_drifted (hk : c.Keyed) (hf : c.failures = []) (hv : p.validate = .ok v)
    (hl : k.dependent? = some l) (he : c.endpoint? v = some e)
    (hothers : ∀ j, j ≠ k → j ≠ l → c.Holds v e s.images j)
    (ho : c.objects.find? (k.id v.ns) = some current)
    (hd : (k.resource v e s.images).data? ≠ current.data?)
    (hw : c.objects.contains (l.id v.ns) = true) :
    (∀ i < 2, ∃ r, c.outcome s p i = .ok r ∧ r.converged = false) ∧
    (c.passes s p 2).Settled v s.images e ∧ (c.passes s p 2).failures = [] ∧
    c.Follows (c.passes s p 2)
      [⟨.update, k.id v.ns⟩, ⟨.delete, l.id v.ns⟩, ⟨.create, l.id v.ns⟩] := by
  obtain ⟨r, hr, hconv, hf', hfollows, hmissing, hholds⟩ :=
    reconcile_of_drifted_data hk hf hv hl he hothers ho hd hw
  have he' : (c.reconcile s p).2.endpoint? v = some e := by
    rw [endpoint?_congr (hfollows.frame _ ?_)]
    · exact he
    · have hne : Slot.searchService ≠ k ∧ Slot.searchService ≠ l := by
        obtain ⟨hkind, hworkload⟩ := Slot.kind_of_dependent? hl
        constructor <;> rintro rfl <;> contradiction
      simpa using ⟨Slot.id_ne hne.1, Slot.id_ne hne.2⟩
  obtain ⟨r', hr', hconv', hf'', hfollows', hsettled⟩ :=
    reconcile_of_missing (hk.reconcile s p) hf' hv (Slot.dependent_mem_consumers hl)
      (Slot.enabled_of_dependent? hl v).2 he' hholds hmissing
  refine ⟨fun i hi => ?_, hsettled, hf'', hfollows.trans hfollows'⟩
  match i, hi with
  | 0, _ => exact ⟨r, hr, hconv⟩
  | 1, _ => exact ⟨r', hr', hconv'⟩

end Cluster

/-! ## Pipelines with other patterns -/

/-- A pipeline in which some parsers have other patterns, and which is the same in all else. -/
structure Pipeline.PatternEdit (p p' : Pipeline) : Prop where
  same : p' = { p with spec := { p.spec with parsers := p'.spec.parsers } }
  names : LogParser.names p'.spec.parsers = LogParser.names p.spec.parsers
  changed : p'.spec.parsers ≠ p.spec.parsers

/-- A valid pipeline with other parsers. -/
def ValidPipeline.withParsers (v : ValidPipeline) (ps : List LogParser) : ValidPipeline :=
  { v with spec := { v.spec with parsers := ps } }

theorem Pipeline.PatternEdit.validated {p p' : Pipeline} (h : p.PatternEdit p') :
    p'.validated = p.validated.withParsers p'.spec.parsers := by
  have hsame := congrArg Pipeline.validated h.same
  exact hsame

theorem Pipeline.oneLine_of_validate {p : Pipeline} {v : ValidPipeline} (h : p.validate = .ok v) :
    ∀ q ∈ v.spec.parsers, q.OneLine :=
  fun q hq => ((wellFormed_of_validate h).parsers q hq).oneLine

namespace Slot

variable {v : ValidPipeline} {ps : List LogParser} {e : Endpoint} {images : Images} {k : Slot}

/-- Only the collector's objects depend on the patterns of parsers. -/
theorem resource_withParsers (h : LogParser.names ps = LogParser.names v.spec.parsers)
    (hk : k ≠ .collectorConfig) (hk' : k ≠ .collectorWorkload) :
    k.resource (v.withParsers ps) e images = k.resource v e images := by
  have hfiles : (RoutingTable.ofValid (v.withParsers ps)).aggregatorFiles
      = (RoutingTable.ofValid v).aggregatorFiles := RoutingTable.aggregatorFiles_of_names h
  cases k with
  | collectorConfig | collectorWorkload => contradiction
  | aggregatorConfig | aggregatorWorkload =>
      simp only [resource, hfiles]
      rfl
  | _ => rfl

end Slot

namespace Cluster

variable {c : Cluster} {s : Settings} {p p' : Pipeline} {v v' : ValidPipeline} {e : Endpoint}
  {images : Images} {ps : List LogParser} {k : Slot}

/-- Whatever the patterns of the parsers, the objects of the other slots are as desired. -/
theorem holds_withParsers (h : LogParser.names ps = LogParser.names v.spec.parsers)
    (hk : k ≠ .collectorConfig) (hk' : k ≠ .collectorWorkload) :
    c.Holds (v.withParsers ps) e images k ↔ c.Holds v e images k := by
  have hresource : k.resource (v.withParsers ps) e images = k.resource v e images :=
    Slot.resource_withParsers h hk hk'
  unfold Holds
  rw [hresource]
  rfl

/-- The data of the collector is made of its files. -/
theorem data?_collectorConfig (v : ValidPipeline) (e : Endpoint) (images : Images) :
    (Slot.collectorConfig.resource v e images).data?
      = some (RoutingTable.ofValid v).collectorFiles := rfl

/-- **An edit of patterns restarts the collector and nothing else.** Let a pipeline have converged
on a cluster without pending failures, and let another one differ from it in the patterns of
parsers.  The first two passes over the other one act, all later ones converge, and together they
log just three changes: the collector's data is updated, its workload deleted and created anew.  Of
the files in the data, only the one that defines the parsers changes, and it does; every other
object stays as it was. -/
theorem pattern_edit_propagates (hk : c.Keyed) (hf : c.failures = []) (hv : p.validate = .ok v)
    (hv' : p'.validate = .ok v') (hedit : p.PatternEdit p') {r : PassResult}
    (hr : (c.reconcile s p).1 = .ok r) (hc : r.converged = true) :
    (∀ i < 2, ∃ r', c.outcome s p' i = .ok r' ∧ r'.converged = false) ∧
    ∀ n ≥ 2, c.outcome s p' n = .ok r ∧
      (c.passes s p' n).logSince c
        = [⟨.update, Slot.collectorConfig.id v.ns⟩, ⟨.delete, Slot.collectorWorkload.id v.ns⟩,
          ⟨.create, Slot.collectorWorkload.id v.ns⟩] ∧
      (∃ before after files files',
        c.objects.find? (Slot.collectorConfig.id v.ns) = some before ∧
        (c.passes s p' n).objects.find? (Slot.collectorConfig.id v.ns) = some after ∧
        before.data? = some files ∧ after.data? = some files' ∧
        ∀ name, files'.find? name ≠ files.find? name ↔ name = Collector.parsersFile) ∧
      ∀ id, id ≠ Slot.collectorConfig.id v.ns → id ≠ Slot.collectorWorkload.id v.ns →
        (c.passes s p' n).objects.find? id = c.objects.find? id := by
  obtain ⟨e, rfl, -, he, -, hall⟩ := (Ends.of_reconcile hk hv s).of_converged hr hc
  have honeline := Pipeline.oneLine_of_validate hv
  have honeline' := Pipeline.oneLine_of_validate hv'
  obtain ⟨-, rfl⟩ := Pipeline.eq_validated_of_validate hv
  obtain ⟨-, rfl⟩ := Pipeline.eq_validated_of_validate hv'
  rw [hedit.validated] at hv' honeline'
  have hnames : LogParser.names p'.spec.parsers = LogParser.names p.validated.spec.parsers :=
    hedit.names
  have hfiles : ∀ name,
      (RoutingTable.ofValid (p.validated.withParsers p'.spec.parsers)).collectorFiles.find? name
        ≠ (RoutingTable.ofValid p.validated).collectorFiles.find? name ↔
      name = Collector.parsersFile :=
    RoutingTable.collectorFiles_ne_iff hnames hedit.changed honeline honeline'
  obtain ⟨before, hbefore, hagree, -⟩ :=
    (holds_iff_of_enabled (k := .collectorConfig) rfl).1 (hall .collectorConfig)
  obtain ⟨workload, hworkload, -⟩ :=
    (holds_iff_of_enabled (k := .collectorWorkload) rfl).1 (hall .collectorWorkload)
  have hd : (Slot.collectorConfig.resource (p.validated.withParsers p'.spec.parsers) e
      s.images).data? ≠ before.data? := by
    rw [← hagree, data?_collectorConfig, data?_collectorConfig]
    intro hsame
    exact (hfiles Collector.parsersFile).2 rfl
      (congrArg (·.find? Collector.parsersFile) (Option.some.inj hsame))
  obtain ⟨hacts, hsettled, hf', hfollows⟩ :=
    settled_of_drifted (s := s) hk hf hv' (k := .collectorConfig) (l := .collectorWorkload) rfl he
      (fun j hj hj' => (holds_withParsers hnames hj hj').2 (hall j)) hbefore hd
      (contains_iff.2 ⟨workload, hworkload⟩)
  have hlast : c.outcome s p' 2 = .ok (.settled e s.timing.resync) :=
    congrArg Prod.fst (hsettled.reconcile (hk.passes s p' 2) hf' hv')
  refine ⟨hacts, fun n hn => ?_⟩
  rw [passes_eq_of_converged hk hv' hlast rfl hn, (passes_of_converged hk hv' hlast rfl hn).1,
    hfollows.logSince_eq]
  obtain ⟨after, hafter, hagree', -⟩ :=
    (holds_iff_of_enabled (k := .collectorConfig) rfl).1 (hsettled.holds .collectorConfig)
  refine ⟨rfl, rfl, ⟨before, after, _, _, hbefore, hafter, hagree.symm, hagree'.symm, hfiles⟩, ?_⟩
  intro id hid hid'
  refine hfollows.frame id ?_
  simpa using ⟨hid, hid'⟩

end Cluster

/-! ## Another pattern -/

namespace Pipeline

/-- The small pipeline with another pattern for its parser. -/
def repatterned : Pipeline :=
  { small with spec := { small.spec with parsers := [⟨"json", "^(?<time>[^ ]+) (?<log>.*)$"⟩] } }

theorem validate_repatterned : repatterned.validate = .ok repatterned.validated :=
  validate_of_violations (by decide)

theorem patternEdit_repatterned : small.PatternEdit repatterned where
  same := rfl
  names := rfl
  changed := by decide

end Pipeline

namespace Cluster

/-- A cluster that converged for the small pipeline, and then gets the other pattern. -/
theorem pattern_edit_propagates_repatterned : ∃ r,
    (empty.passes .standard .small 17).Keyed ∧ (empty.passes .standard .small 17).failures = [] ∧
    Pipeline.small.validate = .ok Pipeline.small.validated ∧
    Pipeline.repatterned.validate = .ok Pipeline.repatterned.validated ∧
    Pipeline.small.PatternEdit .repatterned ∧
    ((empty.passes .standard .small 17).reconcile .standard .small).1 = .ok r ∧
    r.converged = true ∧
    (((empty.passes .standard .small 17).passes .standard .repatterned 2).logSince
      (empty.passes .standard .small 17)).length = 3 := by
  have hk := keyed_empty.passes .standard .small 17
  have hsettled : (empty.passes .standard .small 17).Settled Pipeline.small.validated
      Settings.standard.images Pipeline.smallEndpoint := ⟨rfl, holds_small⟩
  have hpass := hsettled.reconcile hk failures_small Pipeline.validate_small
  have hr := congrArg Prod.fst hpass
  have hlater := (pattern_edit_propagates hk failures_small Pipeline.validate_small
    Pipeline.validate_repatterned Pipeline.patternEdit_repatterned hr rfl).2 2 (Nat.le_refl 2)
  refine ⟨_, hk, failures_small, Pipeline.validate_small, Pipeline.validate_repatterned,
    Pipeline.patternEdit_repatterned, hr, rfl, ?_⟩
  rw [hlater.2.1]
  rfl

end Cluster

end LogOperator
