import LogOperator.Proofs.Reconcile.Backlog

/-!
# LogOperator.Proofs.Reconcile.Convergence

Passes over one pipeline converge, from whatever the cluster holds and whatever failures are
pending.  The measure is the backlog of the foundation; once the foundation holds, the endpoint is
known and the measure is the backlog of its consumers (`Cluster.potential`).  Every pass either
finds nothing to do, or carries out an action, which lowers the measure, or uses up a pending
failure, which does not raise it (`Ends.advances`).

* `exists_converged` — some pass converges;
* `holds_of_converged` — what a pass that converged leaves behind;
* `convergence` — how soon, after how many actions, and that it is for good.
-/

namespace LogOperator

/-- The pass reports an action. -/
def reportsAction : Except ReconcileError PassResult → Bool
  | .ok r => r.action.isSome
  | .error _ => false

namespace Cluster

variable {c : Cluster} {s : Settings} {p : Pipeline} {v : ValidPipeline} {images : Images}
  {e : Endpoint} {a : Action} {k : Slot}

/-! ## The measure -/

/-- A bound on the number of actions that are left.  What the consumers need depends on the
endpoint, so as long as the foundation needs something, they count as if all of them were to be
replaced. -/
def potential (c : Cluster) (v : ValidPipeline) (images : Images) : Nat :=
  if c.pending v default images Slot.foundation = 0 then
    match c.endpoint? v with
    | some e => c.pending v e images Slot.consumers
    | none => (Slot.consumers.map effortBound).sum
  else c.pending v default images Slot.foundation + (Slot.consumers.map effortBound).sum

theorem sum_effortBound_foundation : (Slot.foundation.map effortBound).sum = 6 := by decide

theorem sum_effortBound_consumers : (Slot.consumers.map effortBound).sum = 10 := by decide

/-- Never are more than sixteen actions left. -/
theorem Keyed.potential_le (hk : c.Keyed) (v : ValidPipeline) (images : Images) :
    c.potential v images ≤ 16 := by
  have hf := hk.pending_le v default images Slot.foundation
  rw [sum_effortBound_foundation] at hf
  unfold potential
  rw [sum_effortBound_consumers]
  split
  · split
    · next e he =>
      have hc := hk.pending_le v e images Slot.consumers
      rw [sum_effortBound_consumers] at hc
      omega
    · omega
  · omega

/-- What the foundation needs does not depend on the endpoint. -/
theorem pending_foundation (c : Cluster) (v : ValidPipeline) (images : Images) (e e' : Endpoint) :
    c.pending v e images Slot.foundation = c.pending v e' images Slot.foundation := by
  refine congrArg List.sum (List.map_congr_left fun k hk => ?_)
  have hm : k.mounted? = none := by
    revert hk
    cases k <;> decide
  simp only [backlog, doomed, hm, Slot.entry_of_mem_foundation v e images hk e', Option.any_none]

/-- A foundation that holds is no backlog. -/
theorem Keyed.pending_foundation_eq_zero (hk : c.Keyed)
    (h : ∀ k ∈ Slot.foundation, c.Holds v e images k) :
    c.pending v default images Slot.foundation = 0 := by
  rw [pending_foundation c v images default e]
  refine hk.pending_eq_zero h fun k hf l hl => ?_
  have hc : ∀ k ∈ Slot.foundation, ∀ l ∈ Slot.all, l.dependent? ≠ some k := by decide
  exact absurd hl (hc k hf l l.mem_all)

/-- Once the foundation holds, the measure is the backlog of the consumers. -/
theorem Grounded.potential_eq (hg : c.Grounded v images e) (hk : c.Keyed) :
    c.potential v images = c.pending v e images Slot.consumers := by
  rw [potential, if_pos (hk.pending_foundation_eq_zero hg.holds), hg.endpoint]

/-- As long as the foundation needs something, the measure counts the most for the consumers. -/
theorem Keyed.potential_lt {c' : Cluster} (hk' : c'.Keyed)
    (h : c'.pending v default images Slot.foundation < c.pending v default images Slot.foundation) :
    c'.potential v images < c.potential v images := by
  have hc (e : Endpoint) := hk'.pending_le v e images Slot.consumers
  have hnow : c.potential v images = c.pending v default images Slot.foundation
      + (Slot.consumers.map effortBound).sum := if_neg (by omega)
  rw [hnow, potential]
  split
  · split
    · next e he =>
      have := hc e
      omega
    · omega
  · omega

/-! ## What a pass does to the measure -/

/-- A pass converges, or gets ahead by an action, or uses up a failure. -/
inductive Advances (c : Cluster) (s : Settings) (v : ValidPipeline) :
    Except ReconcileError PassResult → Cluster → Prop where
  | converged (e : Endpoint) : Advances c s v (.ok (.settled e s.timing.resync)) c
  | acted {a : Action} {answer : Option Endpoint} {c' : Cluster} (hf : c'.failures = c.failures)
      (hlt : c'.potential v s.images < c.potential v s.images) :
      Advances c s v (.ok (.changed a answer s.timing.change)) c'
  | failed {op : Operation} {id : Id} {c' : Cluster} (hmem : (op, id) ∈ c.failures)
      (hf : c'.failures = c.failures.erase (op, id))
      (hle : c'.potential v s.images ≤ c.potential v s.images) :
      Advances c s v (.error (.store op id .injected)) c'

/-- A pass asks for no failures. -/
theorem Advances.failures_subset {answer : Except ReconcileError PassResult} {c' : Cluster}
    (h : c.Advances s v answer c') : c'.failures ⊆ c.failures := by
  cases h with
  | converged => exact fun _ hmem => hmem
  | acted hf => exact hf ▸ fun _ hmem => hmem
  | failed _ hf =>
      rw [hf]
      exact fun _ => List.mem_of_mem_erase

/-- A consumer's action is measured by the backlog of the consumers, before and after. -/
theorem Grounded.advances {reply : Reply Unit} {answer : Option Endpoint} (hk : c.Keyed)
    (hg : c.Grounded v s.images e) (hc : k ∈ Slot.consumers)
    (hb : ∀ l ∈ k.before, c.Holds v e s.images l) (hw : c.Wants v e s.images k a)
    (ha : c.Applies a reply) (hg' : reply.2.Grounded v s.images e) :
    c.Advances s v (reply.1.map fun _ => .changed a answer s.timing.change) reply.2 := by
  have hnow := hg.potential_eq hk
  have hthen := hg'.potential_eq (ha.keyed hk)
  cases ha with
  | refused hf => exact .failed hf rfl (Nat.le_refl _)
  | @halved r dependent hu hf =>
      have hdep : ∀ l, k.dependent? = some l → l ∈ Slot.consumers := fun _ =>
        Slot.dependent_mem_consumers
      have hle := hw.pending_le hk (by decide) hc hdep (.halved hu hf) rfl
      refine .failed hf rfl ?_
      rw [hnow, hthen]
      exact hle
  | done hf =>
      refine .acted (failures_perform c a) ?_
      rw [hnow, hthen]
      exact hw.pending_perform_lt hk hc hb hf

/-- **Every pass gets ahead**: it converges, acts or uses up a failure. -/
theorem Ends.advances {reply : Reply PassResult} (h : c.Ends s v reply) (hk : c.Keyed)
    (hs : c.Addressed v) (hv : v.Locates) : c.Advances s v reply.1 reply.2 := by
  have hend := h
  cases h with
  | converged => exact .converged _
  | unresolved he hf =>
      obtain ⟨e, he'⟩ := hs.endpoint? hv hf
      rw [he] at he'
      contradiction
  | unread hf => exact .failed hf rfl (Nat.le_refl _)
  | @acts k e a reply answer he hb hw ha =>
      rcases List.mem_append.1 k.mem_all with hf | hc
      · cases ha with
        | refused hmem => exact .failed hmem rfl (Nat.le_refl _)
        | halved =>
            obtain ⟨l, hl, -⟩ := hw.dependent? rfl
            have hnone : ∀ k ∈ Slot.foundation, k.dependent? = none := by decide
            rw [hnone k hf] at hl
            contradiction
        | done hcalls =>
            have hlt := hw.pending_perform_lt hk hf hb hcalls
            rw [pending_foundation _ v s.images e default,
              pending_foundation _ v s.images e default] at hlt
            exact .acted (failures_perform c a) ((Applies.done hcalls).keyed hk |>.potential_lt hlt)
      · have hg := grounded_of_before hc (he hc).1 hb
        exact hg.advances hk hc hb hw ha (hend.grounded hk hg)

/-! ## Passes in a row -/

/-- So does every pass over a valid pipeline. -/
theorem advances_of_validate (hk : c.Keyed) (hs : c.Addressed v) (hv : p.validate = .ok v)
    (s : Settings) : c.Advances s v (c.outcome s p 0) (c.reconcile s p).2 :=
  (Ends.of_reconcile hk hv s).advances hk hs (Pipeline.locates_of_validate hv)

/-- A Service that a pass writes is given an address. -/
theorem Addressed.reconcile (hk : c.Keyed) (hs : c.Addressed v) (hv : p.validate = .ok v)
    (s : Settings) : (c.reconcile s p).2.Addressed v :=
  (Ends.of_reconcile hk hv s).addressed hs

/-- Some pass converges. -/
theorem exists_converged (hk : c.Keyed) (hs : c.Addressed v) (hv : p.validate = .ok v)
    (s : Settings) : ∃ n ≤ c.potential v s.images + c.failures.length, ∃ r,
      c.outcome s p n = .ok r ∧ r.converged = true := by
  generalize hm : c.potential v s.images + c.failures.length = m
  induction m using Nat.strongRecOn generalizing c with
  | ind m ih =>
      have hadv := advances_of_validate hk hs hv s
      have hk' := hk.reconcile s p
      have hs' := hs.reconcile hk hv s
      -- the measure of the cluster after the pass bounds the passes that are still to come
      have hlater : (c.reconcile s p).2.potential v s.images
            + (c.reconcile s p).2.failures.length < m →
          ∃ n ≤ m, ∃ r, c.outcome s p n = .ok r ∧ r.converged = true := by
        intro hlt
        obtain ⟨n, hn, r, hr, hc⟩ := ih _ hlt hk' hs' rfl
        exact ⟨n + 1, by omega, r, by rw [outcome_succ, hr], hc⟩
      generalize (c.reconcile s p).2 = c' at hadv hlater
      generalize hanswer : c.outcome s p 0 = answer at hadv
      cases hadv with
      | converged e => exact ⟨0, Nat.zero_le m, .settled e s.timing.resync, hanswer, rfl⟩
      | acted hf hlt =>
          refine hlater ?_
          rw [hf]
          omega
      | failed hmem hf hle =>
          refine hlater ?_
          have hpos := List.length_pos_of_mem hmem
          rw [hf, List.length_erase_of_mem hmem]
          omega

/-- **A pass that converged leaves the desired state behind.**  It knew the endpoint, and from then on
every slot holds what it must. -/
theorem holds_of_converged (hk : c.Keyed) (hv : p.validate = .ok v) {n : Nat} {r : PassResult}
    (hr : c.outcome s p n = .ok r) (hc : r.converged = true) :
    ∃ e, r = .settled e s.timing.resync ∧ ∀ m, n ≤ m →
      (c.passes s p m).endpoint? v = some e ∧ ∀ k, (c.passes s p m).Holds v e s.images k := by
  obtain ⟨e, hsettled, -, he, -, hall⟩ :=
    (Ends.of_reconcile (hk.passes s p n) hv s).of_converged hr hc
  refine ⟨e, hsettled, fun m hm => ?_⟩
  rw [passes_eq_of_converged hk hv hr hc hm]
  exact ⟨he, hall⟩

/-- The same of a pass whose answer is given. -/
theorem holds_of_settled (hk : c.Keyed) (hv : p.validate = .ok v) {m n : Nat}
    (hr : c.outcome s p n = .ok (.settled e s.timing.resync)) (hm : n ≤ m) :
    (c.passes s p m).endpoint? v = some e ∧ ∀ k, (c.passes s p m).Holds v e s.images k := by
  obtain ⟨e', he', hlater⟩ := holds_of_converged hk hv hr rfl
  cases he'
  exact hlater m hm

/-- Some pass finds nothing to do and leaves the cluster alone. -/
theorem exists_settled (hk : c.Keyed) (hs : c.Addressed v) (hv : p.validate = .ok v)
    (s : Settings) : ∃ n e, (c.passes s p n).endpoint? v = some e ∧
      (c.passes s p n).reconcile s p = (.ok (.settled e s.timing.resync), c.passes s p n) := by
  obtain ⟨n, -, r, hr, hc⟩ := exists_converged hk hs hv s
  obtain ⟨e, rfl, hlater⟩ := holds_of_converged hk hv hr hc
  have hsame := passes_eq_of_converged hk hv hr hc (Nat.le_succ n)
  exact ⟨n, e, (hlater n (Nat.le_refl n)).1, Prod.ext hr hsame⟩

/-- Soon the desired state is there, and it stays. -/
theorem exists_holds (hk : c.Keyed) (hs : c.Addressed v) (hv : p.validate = .ok v) (s : Settings) :
    ∃ n < 17 + c.failures.length, ∃ e, c.outcome s p n = .ok (.settled e s.timing.resync) ∧
      ∀ m, n ≤ m → (c.passes s p m).endpoint? v = some e ∧
        ∀ k, (c.passes s p m).Holds v e s.images k := by
  obtain ⟨n, hn, r, hr, hc⟩ := exists_converged hk hs hv s
  have hbound := hk.potential_le v s.images
  obtain ⟨e, rfl, hlater⟩ := holds_of_converged hk hv hr hc
  exact ⟨n, by omega, e, hr, hlater⟩

/-- The measure bounds the actions of all passes to come. -/
theorem countP_reportsAction_le (hk : c.Keyed) (hs : c.Addressed v) (hv : p.validate = .ok v)
    (s : Settings) (n : Nat) :
    (List.range n).countP (fun i => reportsAction (c.outcome s p i)) ≤ c.potential v s.images := by
  induction n generalizing c with
  | zero => exact Nat.zero_le _
  | succ n ih =>
      have hadv := advances_of_validate hk hs hv s
      have hlater := ih (hk.reconcile s p) (hs.reconcile hk hv s)
      have hsplit : (List.range (n + 1)).countP (fun i => reportsAction (c.outcome s p i))
          = (List.range n).countP (fun i => reportsAction ((c.reconcile s p).2.outcome s p i))
            + if reportsAction (c.outcome s p 0) then 1 else 0 := by
        rw [List.range_succ_eq_map, List.countP_cons, List.countP_map]
        simp only [Function.comp_def, Nat.succ_eq_add_one, outcome_succ]
      rw [hsplit]
      generalize (c.reconcile s p).2 = c' at hadv hlater
      generalize c.outcome s p 0 = answer at hadv
      cases hadv with
      | converged e =>
          rw [if_neg (by simp [reportsAction, PassResult.settled])]
          exact hlater
      | acted hf hlt =>
          rw [if_pos (by simp [reportsAction, PassResult.changed])]
          omega
      | failed hmem hf hle =>
          rw [if_neg (by simp [reportsAction])]
          exact hlater.trans hle

/-- A pass fails only by a failure that was pending. -/
theorem injected_of_outcome (hk : c.Keyed) (hs : c.Addressed v) (hv : p.validate = .ok v)
    {n : Nat} {err : ReconcileError} (h : c.outcome s p n = .error err) :
    ∃ op id, (op, id) ∈ c.failures ∧ err = .store op id .injected := by
  induction n generalizing c with
  | zero =>
      have hadv := advances_of_validate hk hs hv s
      rw [h] at hadv
      generalize (c.reconcile s p).2 = c' at hadv
      cases hadv with
      | failed hmem => exact ⟨_, _, hmem, rfl⟩
  | succ n ih =>
      have hadv := advances_of_validate hk hs hv s
      rw [outcome_succ] at h
      obtain ⟨op, id, hmem, herr⟩ := ih (hk.reconcile s p) (hs.reconcile hk hv s) h
      exact ⟨op, id, hadv.failures_subset hmem, herr⟩

/-- Without pending failures, no pass fails and none becomes pending. -/
theorem outcome_of_no_failures (hk : c.Keyed) (hs : c.Addressed v) (hv : p.validate = .ok v)
    (hf : c.failures = []) (s : Settings) (n : Nat) :
    (∃ r, c.outcome s p n = .ok r) ∧ (c.passes s p n).failures = [] := by
  constructor
  · cases ho : c.outcome s p n with
    | ok r => exact ⟨r, rfl⟩
    | error err =>
        obtain ⟨op, id, hmem, -⟩ := injected_of_outcome hk hs hv ho
        rw [hf] at hmem
        contradiction
  · induction n generalizing c with
    | zero => exact hf
    | succ n ih =>
        rw [passes_succ]
        refine ih (hk.reconcile s p) (hs.reconcile hk hv s) ?_
        have hsub := (advances_of_validate hk hs hv s).failures_subset
        rw [hf] at hsub
        exact List.subset_nil.1 hsub

/-- Without pending failures, seventeen passes are enough. -/
theorem settled_of_no_failures (hk : c.Keyed) (hs : c.Addressed v) (hv : p.validate = .ok v)
    (hf : c.failures = []) (s : Settings) : ∃ e, (c.passes s p 17).endpoint? v = some e ∧
      ∀ k, (c.passes s p 17).Holds v e s.images k := by
  obtain ⟨n, hn, e, -, hlater⟩ := exists_holds hk hs hv s
  rw [hf, List.length_nil] at hn
  exact ⟨e, hlater 17 (by omega)⟩

/-- **Convergence.** From any cluster whose objects are stored under their own identities, and whose
search engine's Service has an address if it is there, passes over a pipeline converge: soon, after
at most sixteen actions, failing only by failures that were pending, and for good. -/
theorem convergence (s : Settings) (hv : p.validate = .ok v) (hk : c.Keyed) (hs : c.Addressed v) :
    (∃ n < 17 + c.failures.length, ∃ r, c.outcome s p n = .ok r ∧ r.converged = true) ∧
    (∀ n, (List.range n).countP (fun i => reportsAction (c.outcome s p i)) ≤ 16) ∧
    (∀ n err, c.outcome s p n = .error err →
      ∃ op id, (op, id) ∈ c.failures ∧ err = .store op id .injected) ∧
    (∀ n r, c.outcome s p n = .ok r → r.converged = true → ∀ m, n ≤ m →
      c.outcome s p m = .ok r ∧ c.passes s p (m + 1) = c.passes s p n) := by
  have hbound := hk.potential_le v s.images
  refine ⟨?_, fun n => ?_, fun n err h => injected_of_outcome hk hs hv h,
    fun n r hr hc m hm => passes_of_converged hk hv hr hc hm⟩
  · obtain ⟨n, hn, hconv⟩ := exists_converged hk hs hv s
    exact ⟨n, by omega, hconv⟩
  · have hcount := countP_reportsAction_le hk hs hv s n
    omega

end Cluster

/-! ## A small pipeline -/

namespace Pipeline

/-- A pipeline with one parser and one rule, whose records are printed. -/
def small : Pipeline where
  metadata := { Metadata.empty with name := some "main", ns := some "logging" }
  spec := { Spec.blank with
    version := "7.10.2"
    parsers := [⟨"json", "^(?<log>.*)$"⟩]
    watch := [⟨"checkout", "", [], ["json"], [⟨.stdout, ""⟩]⟩]
    searchEngine := ⟨false, "search.example.com", some 9200, false⟩ }

/-- The small pipeline with a search engine of its own. -/
def selfContained : Pipeline :=
  { small with spec := { small.spec with searchEngine := ⟨true, "", none, false⟩ } }

/-- The small pipeline with a dashboard. -/
def withDashboard : Pipeline :=
  { small with spec := { small.spec with dashboard := true } }

/-- The small pipeline in another namespace. -/
def elsewhere : Pipeline :=
  { small with spec := { small.spec with ns := "elsewhere" } }

theorem validate_small : small.validate = .ok small.validated :=
  validate_of_violations (by decide)

theorem validate_withDashboard : withDashboard.validate = .ok withDashboard.validated :=
  validate_of_violations (by decide)

theorem validate_elsewhere : elsewhere.validate = .ok elsewhere.validated :=
  validate_of_violations (by decide)

theorem validate_selfContained : selfContained.validate = .ok selfContained.validated :=
  validate_of_violations (by decide)

end Pipeline

namespace Cluster

/-! ## A neglected cluster -/

/-- Metadata of an object of the small pipeline's namespace, with its label or without. -/
def metadataOf (k : Slot) (labels : Option TextMap) : Metadata :=
  { Metadata.empty with name := some k.name, ns := some "logging", labels := labels }

/-- The Service of a search engine, at an address. -/
def engineService : Resource where
  metadata := metadataOf .searchService (some managedLabels)
  content := .service (some ⟨some "10.96.0.7", some [⟨none, 9200, none, []⟩], none, none, []⟩) []

/-- The workload of a search engine whose inputs are not known. -/
def agedEngine : Resource where
  metadata := metadataOf .searchWorkload (some managedLabels)
  content := .deployment none []

/-- The collector's ConfigMap with a file that was edited by hand. -/
def driftedConfig : Resource where
  metadata := metadataOf .collectorConfig (some managedLabels)
  content := .configMap (some (Dict.empty.insert Collector.parsersFile "edited by hand")) []

/-- A Service of someone else, under the name of the dashboard's. -/
def foreignService : Resource where
  metadata := metadataOf .dashboardService none
  content := .service none []

/-- A cluster with all of these, in which the first deletion of the search engine's workload will
fail. -/
def neglected : Cluster :=
  ((((empty.seed engineService).seed agedEngine).seed driftedConfig).seed
    foreignService).injectFailure .delete (Slot.searchWorkload.id "logging")

theorem keyed_neglected : neglected.Keyed :=
  keyed_empty.seed.seed.seed.seed.injectFailure

/-- What the neglected cluster holds, by identity. -/
theorem find?_neglected (id : Id) : neglected.objects.find? id =
    if foreignService.id = id then some foreignService
    else if driftedConfig.id = id then some driftedConfig
    else if agedEngine.id = id then some agedEngine
    else if engineService.id = id then some engineService
    else none := by
  simp only [neglected, injectFailure, find?_seed]
  rfl

/-- The Service of its search engine has an address. -/
theorem addressed_neglected : neglected.Addressed Pipeline.selfContained.validated := by
  intro _ r hr
  have hfind : neglected.objects.find? (Slot.searchService.id "logging") = some engineService := by
    rw [find?_neglected]
    rfl
  obtain rfl : engineService = r := Option.some.inj (hfind.symm.trans hr)
  exact ⟨("10.96.0.7", 9200), rfl⟩

/-- The workload of the search engine was not built from the inputs of the pipeline. -/
theorem not_holds_agedEngine : ¬ neglected.Holds Pipeline.selfContained.validated e images
    .searchWorkload := by
  have hfind : neglected.objects.find? (Slot.searchWorkload.id "logging") = some agedEngine := by
    rw [find?_neglected]
    rfl
  rw [holds_iff_agrees rfl hfind]
  intro hagrees
  have hfingerprint := hagrees.2 rfl
  rw [Slot.fingerprint?_resource] at hfingerprint
  contradiction

/-- The data of the collector is not that of the pipeline. -/
theorem not_holds_driftedConfig : ¬ neglected.Holds Pipeline.selfContained.validated e images
    .collectorConfig := by
  have hfind : neglected.objects.find? (Slot.collectorConfig.id "logging") = some driftedConfig := by
    rw [find?_neglected]
    rfl
  have hfile : (RoutingTable.ofValid Pipeline.selfContained.validated).collectorFiles.find?
      Collector.parsersFile ≠ some "edited by hand" := by
    decide +kernel
  rw [holds_iff_agrees rfl hfind]
  intro hagrees
  have hdata : (RoutingTable.ofValid Pipeline.selfContained.validated).collectorFiles
      = Dict.empty.insert Collector.parsersFile "edited by hand" := Option.some.inj hagrees.1
  rw [hdata, Dict.find?_insert, if_pos rfl] at hfile
  contradiction

/-- The Service of someone else stands where the pipeline wants none, and holds as it is. -/
theorem holds_foreignService : neglected.Holds Pipeline.selfContained.validated e images
    .dashboardService := by
  have hfind : neglected.objects.find? (Slot.dashboardService.id "logging")
      = some foreignService := by
    rw [find?_neglected]
    rfl
  rw [holds_iff_of_disabled rfl]
  intro r hr
  obtain rfl : foreignService = r := Option.some.inj (hfind.symm.trans hr)
  rfl

/-- The neglected cluster converges within eighteen passes, and then every slot holds. -/
theorem convergence_neglected :
    Pipeline.selfContained.validate = .ok Pipeline.selfContained.validated ∧
    neglected.Keyed ∧ neglected.Addressed Pipeline.selfContained.validated ∧
    neglected.failures = [(.delete, Slot.searchWorkload.id "logging")] ∧
    (∀ e images, ¬ neglected.Holds Pipeline.selfContained.validated e images .searchWorkload ∧
      ¬ neglected.Holds Pipeline.selfContained.validated e images .collectorConfig ∧
      neglected.Holds Pipeline.selfContained.validated e images .dashboardService) ∧
    ∃ n < 18, ∃ e, neglected.outcome .standard Pipeline.selfContained n
        = .ok (.settled e Settings.standard.timing.resync) ∧
      ∀ m, n ≤ m → neglected.outcome .standard Pipeline.selfContained m
          = .ok (.settled e Settings.standard.timing.resync) ∧
        ∀ k, (neglected.passes .standard Pipeline.selfContained m).Holds
          Pipeline.selfContained.validated e Settings.standard.images k := by
  obtain ⟨⟨n, hn, r, hr, hc⟩, -, -, hstable⟩ := convergence .standard
    Pipeline.validate_selfContained keyed_neglected addressed_neglected
  obtain ⟨e, rfl, hlater⟩ :=
    holds_of_converged keyed_neglected Pipeline.validate_selfContained hr hc
  exact ⟨Pipeline.validate_selfContained, keyed_neglected, addressed_neglected, rfl,
    fun e images => ⟨not_holds_agedEngine, not_holds_driftedConfig, holds_foreignService⟩,
    n, hn, e, hr, fun m hm => ⟨(hstable n _ hr hc m hm).1, (hlater m hm).2⟩⟩

end Cluster

end LogOperator
