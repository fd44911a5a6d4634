import LogOperator.Proofs.Reconcile.Provenance

/-!
# LogOperator.Proofs.Reconcile.Restart

What becomes of a workload whose data was replaced, but which could not be deleted then
(`Cluster.Halved`).  The update is not repeated, because the data is as desired now; all that later
passes compare of the workload is its fingerprint.

* `Halved.deleted` — a workload that was built from other inputs is deleted by the next pass;
* `Halved.kept` — one whose fingerprint is the desired one is never deleted;
* `restarts_iff_stale` — both together;
* `no_restart_tampered` — an edit of the data in the cluster, undone by half, leaves a workload
  running that has read the edited data.
-/

namespace LogOperator.Cluster

variable {c c' : Cluster} {s : Settings} {p : Pipeline} {v : ValidPipeline} {e : Endpoint}
  {k l : Slot} {d id : Id} {f : Fault} {w : Resource} {reply : Reply PassResult} {n : Nat}

/-- The data of a slot was updated, and the workload that mounts it could not be deleted. -/
structure Halved (c c' : Cluster) (s : Settings) (v : ValidPipeline) (e : Endpoint) (k l : Slot) :
    Prop where
  dependent : k.dependent? = some l
  endpoint : c.endpoint? v = some e
  grounded : c'.Grounded v s.images e
  /-- Everything up to the data is as desired. -/
  before : ∀ j ∈ l.before, c'.Holds v e s.images j
  /-- The workload is what it was. -/
  same : c'.objects.find? (l.id v.ns) = c.objects.find? (l.id v.ns)

/-- A pass that changes something and then fails to delete has updated the data of a slot. -/
theorem Ends.halved {m : Mutation} (h : c.Ends s v reply) (hk : c.Keyed)
    (herr : reply.1 = .error (.store .delete d f)) (hlog : reply.2.log = c.log ++ [m]) :
    ∃ e k l, d = l.id v.ns ∧ Halved c reply.2 s v e k l := by
  have hend := h
  cases h with
  | converged | unresolved | unread => cases herr
  | @acts k e a reply _ he hb hw ha =>
      cases ha with
      | done => contradiction
      | refused =>
          have hlen := congrArg List.length hlog
          simp at hlen
      | @halved r dependent hu hf =>
          cases herr
          obtain ⟨l, hl, rfl⟩ := hw.dependent? rfl
          have hc := Slot.mem_consumers_of_dependent? hl
          have hg := grounded_of_before hc (he hc).1 hb
          have hid : r.id = k.id v.ns := hw.target
          refine ⟨e, k, l, rfl, hl, hg.endpoint, hend.grounded hk hg, fun j hj => ?_, ?_⟩
          · rw [Slot.before_of_dependent? hl, Slot.through, List.mem_append] at hj
            rcases hj with hj | hj
            · exact hend.holds hk hg (fun i hi => hb i (Slot.before_trans hi hj)) (hb j hj)
            · rw [List.mem_singleton.1 hj]
              refine hw.holds_written rfl (n := c.revision + 1) ?_
              rw [← hid]
              exact find?_write_self c .update r
          · refine find?_write_of_ne .update ?_
            rw [hid]
            exact Slot.id_ne (Slot.ne_of_dependent? hl).symm

namespace Halved

/-- A workload that was built from other inputs is deleted by the next pass. -/
theorem deleted (h : Halved c c' s v e k l) (hk : c'.Keyed) (hv : p.validate = .ok v)
    (hw : c.objects.find? (l.id v.ns) = some w)
    (hf : (l.resource v e s.images).fingerprint? ≠ w.fingerprint?) {r : PassResult}
    (hr : (c'.reconcile s p).1 = .ok r) :
    c'.Follows (c'.reconcile s p).2 [⟨.delete, l.id v.ns⟩] := by
  have ho : c'.objects.find? (l.id v.ns) = some w := h.same.trans hw
  have hwants : c'.Wants v e s.images l (.recreate (l.id v.ns)) :=
    .stale (Slot.enabled_of_dependent? h.dependent v).2 ho
      (Slot.kind_of_dependent? h.dependent).2 hf
  rcases (Ends.of_reconcile hk hv s).acts_of_wants hk h.grounded h.before hwants with
    ⟨id, -, herr⟩ | ⟨answer, acted, ha, hacts⟩
  · rw [hr] at herr
    contradiction
  · rw [hacts] at hr ⊢
    cases ha with
    | refused => contradiction
    | done =>
        have hfollows := follows_discard c' (l.id v.ns)
        rw [if_pos (contains_iff.2 ⟨w, ho⟩)] at hfollows
        exact hfollows

/-- A workload whose fingerprint is the desired one is never deleted. -/
theorem kept (h : Halved c c' s v e k l) (hk : c'.Keyed) (hv : p.validate = .ok v)
    (hw : c.objects.find? (l.id v.ns) = some w)
    (hf : (l.resource v e s.images).fingerprint? = w.fingerprint?)
    (hok : ∀ i < n, ∃ r, c'.outcome s p i = .ok r) :
    ∃ ms, c'.Follows (c'.passes s p n) ms ∧ ∀ id ∈ ms.map (·.id), id ≠ l.id v.ns := by
  have ho : c'.objects.find? (l.id v.ns) = some w := h.same.trans hw
  obtain ⟨hkind, hworkload⟩ := Slot.kind_of_dependent? h.dependent
  have hholds : c'.Holds v e s.images l := by
    have hne : l.kind ≠ .configMap := fun hl => by
      rw [hl] at hworkload
      contradiction
    have hwkind : w.kind = l.kind := congrArg Id.kind (hk _ w ho)
    refine (holds_iff_agrees (Slot.enabled_of_dependent? h.dependent v).2 ho).2 ⟨?_, fun _ => hf⟩
    rw [Resource.data?_of_kind (by simpa using hne), Resource.data?_of_kind (hwkind ▸ hne)]
  have hthrough : ∀ j ∈ l.through, c'.Holds v e s.images j := fun j hj =>
    (List.mem_append.1 hj).elim (h.before j) fun hj => List.mem_singleton.1 hj ▸ hholds
  refine exists_follows_passes (P := fun c => c.Keyed ∧ c.Grounded v s.images e ∧
    ∀ j ∈ l.through, c.Holds v e s.images j) (fun c r hc hr => ?_) ⟨hk, h.grounded, hthrough⟩ hok
  obtain ⟨hk, hg, hm⟩ := hc
  have hend : c.Ends s v (c.reconcile s p) := Ends.of_reconcile hk hv s
  refine ⟨⟨hend.keyed hk, hend.grounded hk hg, hend.holds_through hk hg hm⟩, ?_⟩
  rcases hend.of_ok hr with ⟨_, -, -, hsame⟩ | ⟨j, e', a, he', -, hwants, hperform⟩
  · rw [hsame]
    exact ⟨[], Follows.refl c, fun id hid => nomatch hid⟩
  · obtain ⟨-, rfl⟩ := Ends.grounded_acts hk hg he' hwants
    have hj : j ∉ l.through := fun hj => hwants.not_holds (hm j hj)
    obtain ⟨hfollows, hids⟩ := hwants.follows
    refine ⟨c.changes a, hperform ▸ hfollows, fun id hid => ?_⟩
    rcases hids id hid with rfl | ⟨i, hi, rfl⟩
    · refine Slot.id_ne ?_
      rintro rfl
      exact hj (List.mem_append_right _ List.mem_cons_self)
    · refine Slot.id_ne ?_
      rintro rfl
      exact hj (List.mem_append_left _ (Slot.mem_before_of_dependent? hi))

end Halved

/-! ## Data that was edited in the cluster -/

/-- A pass that finds data edited, and cannot delete the workload that mounts it, replaces the data
only. -/
theorem reconcile_of_drifted {current : Resource} (hk : c.Keyed) (hv : p.validate = .ok v)
    (he : c.endpoint? v = some e) (hb : ∀ j ∈ k.before, c.Holds v e s.images j)
    (hl : k.dependent? = some l) (ho : c.objects.find? (k.id v.ns) = some current)
    (hd : (k.resource v e s.images).data? ≠ current.data?)
    (hf : c.failures = [(.delete, l.id v.ns)]) :
    ∃ c', c.reconcile s p = (.error (.store .delete (l.id v.ns) .injected), c') ∧
      c'.log = c.log ++ [⟨.update, k.id v.ns⟩] ∧ c'.failures = [] := by
  have hc := Slot.mem_consumers_of_dependent? hl
  have hg := grounded_of_before hc he hb
  have hwants : c.Wants v e s.images k _ :=
    .drifted (Slot.enabled_of_dependent? hl v).1 ho (hk _ _ ho) (Slot.kind_of_dependent? hl).1 hd
  rw [hl, Option.map_some] at hwants
  rcases (Ends.of_reconcile hk hv s).acts_of_wants hk hg hb hwants with
    ⟨id, hget, -⟩ | ⟨answer, acted, ha, hacts⟩
  · simp [hf] at hget
  · rw [hacts]
    cases ha with
    | refused hmem => simp [hf, Action.operation] at hmem
    | halved =>
        refine ⟨_, rfl, ?_, ?_⟩
        · have ht := hwants.target
          rw [← ht]
          rfl
        · show (c.failures.erase _) = []
          rw [hf, List.erase_cons_head]
    | done hcalls =>
        have hcall := hcalls (.delete, l.id v.ns) (by simp [Action.calls, Action.dependent?])
        simp [hf] at hcall

/-! ## A cluster whose data was edited by hand -/

/-- The files of the small pipeline's collector, one of them edited by hand. -/
def editedFiles : TextMap :=
  (RoutingTable.ofValid Pipeline.small.validated).collectorFiles.insert Collector.parsersFile
    "edited by hand"

/-- The ConfigMap with these files. -/
def editedConfig : Resource :=
  (Slot.collectorConfig.resource Pipeline.small.validated Pipeline.smallEndpoint
    Settings.standard.images).withData (some editedFiles)

/-- A cluster that converged for the small pipeline, after the edit, when the collector's workload
cannot be deleted the next time. -/
def tampered : Cluster :=
  ((empty.passes .standard .small 17).seed editedConfig).injectFailure .delete
    (Slot.collectorWorkload.id Pipeline.small.validated.ns)

theorem keyed_tampered : tampered.Keyed :=
  (keyed_empty.passes .standard .small 17).seed.injectFailure

theorem id_editedConfig :
    editedConfig.id = Slot.collectorConfig.id Pipeline.small.validated.ns := by
  rw [editedConfig, Resource.id_withData, Slot.id_resource]

/-- Only the ConfigMap was edited. -/
theorem find?_tampered (id : Id) : tampered.objects.find? id =
    if editedConfig.id = id then some editedConfig
    else (empty.passes .standard .small 17).objects.find? id :=
  Dict.find?_insert _ editedConfig.id id editedConfig

/-- Seventeen passes are enough for the small pipeline. -/
theorem holds_small (k : Slot) : (empty.passes .standard .small 17).Holds
    Pipeline.small.validated Pipeline.smallEndpoint Settings.standard.images k := by
  obtain ⟨e, he, hall⟩ := settled_of_no_failures keyed_empty addressed_empty
    Pipeline.validate_small rfl .standard
  rw [endpoint?_small he] at hall
  exact hall k

theorem failures_small : (empty.passes .standard .small 17).failures = [] :=
  (outcome_of_no_failures keyed_empty addressed_empty Pipeline.validate_small rfl .standard 17).2

theorem failures_tampered : tampered.failures
    = [(.delete, Slot.collectorWorkload.id Pipeline.small.validated.ns)] := by
  rw [tampered, failures_injectFailure, failures_seed, failures_small, List.nil_append]

/-- All slots but the edited one hold. -/
theorem holds_tampered {k : Slot} (hk : k ≠ .collectorConfig) :
    tampered.Holds Pipeline.small.validated Pipeline.smallEndpoint Settings.standard.images k := by
  refine (holds_congr ?_).2 (holds_small k)
  rw [find?_tampered, if_neg]
  rw [id_editedConfig]
  exact Slot.id_ne hk.symm

theorem data?_editedConfig_ne : (Slot.collectorConfig.resource Pipeline.small.validated
    Pipeline.smallEndpoint Settings.standard.images).data? ≠ editedConfig.data? := by
  rw [editedConfig, Resource.data?_withData rfl]
  intro h
  have hfiles : (RoutingTable.ofValid Pipeline.small.validated).collectorFiles = editedFiles :=
    Option.some.inj h
  have hfind : (RoutingTable.ofValid Pipeline.small.validated).collectorFiles.find?
      Collector.parsersFile = some "edited by hand" := by
    rw [hfiles, editedFiles, Dict.find?_insert, if_pos rfl]
  have hne : (RoutingTable.ofValid Pipeline.small.validated).collectorFiles.find?
      Collector.parsersFile ≠ some "edited by hand" := by
    decide +kernel
  exact hne hfind

/-- The pass over the edited cluster replaces the data and fails. -/
theorem reconcile_tampered : ∃ c', tampered.reconcile .standard .small = (.error (.store .delete
      (Slot.collectorWorkload.id Pipeline.small.validated.ns) .injected), c') ∧
    c'.log = tampered.log ++ [⟨.update, Slot.collectorConfig.id Pipeline.small.validated.ns⟩] ∧
    c'.failures = [] := by
  refine reconcile_of_drifted (k := .collectorConfig) (l := .collectorWorkload) keyed_tampered
    Pipeline.validate_small rfl (fun j hj => holds_tampered ?_) rfl ?_ data?_editedConfig_ne
    failures_tampered
  · rintro rfl
    exact absurd hj (by decide)
  · rw [find?_tampered, if_pos id_editedConfig]

/-- The workload is there with the fingerprint of the desired one. -/
theorem exists_workload_tampered : ∃ w,
    tampered.objects.find? (Slot.collectorWorkload.id Pipeline.small.validated.ns) = some w ∧
    (Slot.collectorWorkload.resource Pipeline.small.validated Pipeline.smallEndpoint
      Settings.standard.images).fingerprint? = w.fingerprint? := by
  have hen : Slot.collectorWorkload.enabled Pipeline.small.validated = true := rfl
  have hholds := holds_tampered (k := .collectorWorkload) (by decide)
  obtain ⟨w, hw, hagree⟩ := (holds_iff_of_enabled hen).1 hholds
  exact ⟨w, hw, hagree.2 (by rw [Slot.kind_resource]; rfl)⟩

/-! ## Restarts -/

/-- **A workload is restarted exactly if its fingerprint tells.** Let a pass commit an update of
data and then fail to delete the workload that mounts it.  In every continuation by passes that do
not fail, the workload is deleted if and only if its fingerprint differs from the desired one,
whatever the data was that it has read. -/
theorem restarts_iff_stale (hk : c.Keyed) (hv : p.validate = .ok v)
    (hpass : c.reconcile s p = (.error (.store .delete d f), c'))
    (hlog : c'.log = c.log ++ [⟨.update, id⟩]) (hw : c.objects.find? d = some w) :
    ∃ e desired, c.endpoint? v = some e ∧
      (DesiredState.build v e s.images).object? d = some desired ∧
      ∀ n > 0, (∀ i < n, ∃ r, c'.outcome s p i = .ok r) →
        (⟨.delete, d⟩ ∈ (c'.passes s p n).logSince c' ↔ desired.fingerprint? ≠ w.fingerprint?) := by
  have hend := Ends.of_reconcile hk hv s
  rw [hpass] at hend
  have hk' : c'.Keyed := hend.keyed hk
  obtain ⟨e, k, l, rfl, hhalved⟩ := hend.halved hk rfl hlog
  have hobj : (DesiredState.build v e s.images).object? (l.id v.ns)
      = some (l.resource v e s.images) := by
    rw [Slot.object?_build, if_pos (Slot.enabled_of_dependent? hhalved.dependent v).2]
  refine ⟨e, l.resource v e s.images, hhalved.endpoint, hobj, fun n hn hok => ?_⟩
  by_cases hf : (l.resource v e s.images).fingerprint? = w.fingerprint?
  · obtain ⟨ms, hfollows, hne⟩ := hhalved.kept hk' hv hw hf hok
    rw [hfollows.logSince_eq]
    refine ⟨fun hmem => ?_, fun hne' => absurd hf hne'⟩
    exact absurd rfl (hne _ (List.mem_map_of_mem hmem))
  · obtain ⟨m, rfl⟩ : ∃ m, n = m + 1 := ⟨n - 1, by omega⟩
    obtain ⟨r, hr⟩ := hok 0 (by omega)
    have hfirst := hhalved.deleted hk' hv hw hf hr
    obtain ⟨ms, hlater⟩ := exists_follows_of_ok (hk'.reconcile s p) hv (ok_of_ok_succ hok)
    rw [passes_succ, (hfirst.trans hlater).logSince_eq]
    exact ⟨fun _ => hf, fun _ => List.mem_append_left _ List.mem_cons_self⟩

/-- The edited cluster, whose workload has the desired fingerprint. -/
theorem restarts_iff_stale_tampered : ∃ c' w e desired,
    tampered.reconcile .standard .small = (.error (.store .delete
      (Slot.collectorWorkload.id Pipeline.small.validated.ns) .injected), c') ∧
    tampered.objects.find? (Slot.collectorWorkload.id Pipeline.small.validated.ns) = some w ∧
    (DesiredState.build Pipeline.small.validated e Settings.standard.images).object?
      (Slot.collectorWorkload.id Pipeline.small.validated.ns) = some desired ∧
    ∀ n > 0, (∀ i < n, ∃ r, c'.outcome .standard .small i = .ok r) →
      (⟨.delete, Slot.collectorWorkload.id Pipeline.small.validated.ns⟩
        ∈ (c'.passes .standard .small n).logSince c' ↔ desired.fingerprint? ≠ w.fingerprint?) := by
  obtain ⟨c', hpass, hlog, -⟩ := reconcile_tampered
  obtain ⟨w, hw, -⟩ := exists_workload_tampered
  obtain ⟨e, desired, -, hdesired, hiff⟩ :=
    restarts_iff_stale keyed_tampered Pipeline.validate_small hpass hlog hw
  exact ⟨c', w, e, desired, hpass, hw, hdesired, hiff⟩

/-- The collector's data is replaced, its workload cannot be deleted, and later passes converge
without having deleted it: it keeps running on the edited data. -/
theorem no_restart_tampered : ∃ c' w n, tampered.Keyed ∧
    Pipeline.small.validate = .ok Pipeline.small.validated ∧
    tampered.objects.find? (Slot.collectorWorkload.id Pipeline.small.validated.ns) = some w ∧
    tampered.reconcile .standard .small = (.error (.store .delete
      (Slot.collectorWorkload.id Pipeline.small.validated.ns) .injected), c') ∧
    c'.log = tampered.log ++ [⟨.update, Slot.collectorConfig.id Pipeline.small.validated.ns⟩] ∧
    (∀ i < n, ∃ r, c'.outcome .standard .small i = .ok r) ∧
    c'.outcome .standard .small n
      = .ok (.settled Pipeline.smallEndpoint Settings.standard.timing.resync) ∧
    ⟨.delete, Slot.collectorWorkload.id Pipeline.small.validated.ns⟩
      ∉ (c'.passes .standard .small (n + 1)).logSince c' := by
  obtain ⟨c', hpass, hlog, hf⟩ := reconcile_tampered
  obtain ⟨w, hw, hfp⟩ := exists_workload_tampered
  have hend := Ends.of_reconcile keyed_tampered Pipeline.validate_small .standard
  rw [hpass] at hend
  have hk' : c'.Keyed := hend.keyed keyed_tampered
  obtain ⟨e, k, l, hl, hhalved⟩ := hend.halved keyed_tampered rfl hlog
  cases Slot.id_inj hl
  rw [endpoint?_small hhalved.endpoint] at hhalved
  have hs : c'.Addressed Pipeline.small.validated := addressed_of_external rfl
  have hok (i : Nat) : ∃ r, c'.outcome .standard .small i = .ok r :=
    (outcome_of_no_failures hk' hs Pipeline.validate_small hf .standard i).1
  obtain ⟨n, e, he, hlast⟩ := exists_settled hk' hs Pipeline.validate_small .standard
  rw [endpoint?_small he] at hlast
  obtain ⟨ms, hfollows, hne⟩ := hhalved.kept hk' Pipeline.validate_small hw hfp
    fun i (_ : i < n + 1) => hok i
  refine ⟨c', w, n, keyed_tampered, Pipeline.validate_small, hw, hpass, hlog, fun i _ => hok i,
    ?_, ?_⟩
  · rw [outcome, hlast]
  · rw [hfollows.logSince_eq]
    exact fun hmem => hne _ (List.mem_map_of_mem hmem) rfl

end LogOperator.Cluster
