import LogOperator.Proofs.Reconcile.Report

/-!
# LogOperator.Proofs.Reconcile.Ownership

What becomes of objects under the names of the operator's own that someone else created.  The label
that tells whose an object is decides for components that are switched off, and for nothing else: a
workload that must be there is replaced when its fingerprint is not the desired one, or when the data
that it mounts is updated, whoever created it (`Cluster.Displaces`).

* `Ends.deletes_iff` — a pass deletes what the action removes that it carries out;
* `Displaces.deletes`, `Deletes.displaces` — the ways in which an object of someone else is deleted;
* `deletes_foreign_iff` — both together;
* `stray_deleted` — a workload without the label is deleted in either way.
-/

namespace LogOperator.Cluster

variable {c : Cluster} {s : Settings} {p : Pipeline} {v : ValidPipeline} {k : Slot} {r : Resource}
  {id : Id} {reply : Reply PassResult}

/-! ## Deletions -/

/-- A pass deletes the object of an identity. -/
def Deletes (c : Cluster) (s : Settings) (p : Pipeline) (id : Id) : Prop :=
  ⟨.delete, id⟩ ∈ (c.reconcile s p).2.logSince c

/-- What stays of an action that fails is an update at most. -/
theorem delete_not_mem_salvaged (due : Option Action) (err : ReconcileError) :
    ⟨.delete, id⟩ ∉ salvaged due err := by
  unfold salvaged
  split
  · split
    · split <;> simp
    · exact List.not_mem_nil
  · exact List.not_mem_nil

/-- **A pass deletes an object exactly if it carries out an action that removes it**: the action of
the first slot that wants any. -/
theorem Ends.deletes_iff (h : c.Ends s v reply) (hk : c.Keyed) :
    ⟨.delete, id⟩ ∈ reply.2.logSince c ↔ (∃ r, reply.1 = .ok r) ∧
      ∃ k e a, (k ∈ Slot.consumers → c.endpoint? v = some e) ∧
        (∀ l ∈ k.before, c.Holds v e s.images l) ∧ c.Wants v e s.images k a ∧
        a.removed? = some id ∧ c.objects.contains id = true := by
  rw [(h.recorded hk).logSince_eq]
  constructor
  · intro hmem
    cases hr : reply.1 with
    | error err =>
        rw [hr] at hmem
        exact absurd hmem (delete_not_mem_salvaged _ err)
    | ok r =>
        refine ⟨⟨r, rfl⟩, ?_⟩
        rw [← (h.recorded hk).logSince_eq] at hmem
        rcases h.of_ok hr with ⟨e, -, -, hsame⟩ | ⟨k, e, a, he, hb, hw, hperform⟩
        · rw [hsame, (Follows.refl c).logSince_eq] at hmem
          contradiction
        · rw [hperform, hw.follows.1.logSince_eq] at hmem
          exact ⟨k, e, a, he, hb, hw, delete_mem_changes.1 hmem⟩
  · rintro ⟨⟨r, hr⟩, k, e, a, he, hb, hw, hremoved⟩
    have hdue := hk.firstDemand?_eq hb hw he
    have haction : r.action = some a := (h.due?_eq hk hr).1.trans hdue
    have hrecorded : c.recorded (c.firstDemand? s v) (.ok r) = c.changes a := by
      rw [Cluster.recorded, haction, hw.changes_eq hk]
      rfl
    rw [hr, hrecorded]
    exact delete_mem_changes.2 hremoved

/-! ## Objects of someone else -/

/-- How a pass that does not fail comes to delete the workload of a slot, whoever created it. -/
inductive Displaces (c : Cluster) (s : Settings) (v : ValidPipeline) (r : Resource) :
    Slot → Prop where
  /-- The workload must be there, with another fingerprint, and all before it is as desired. -/
  | stale {k : Slot} {e : Endpoint} (hen : k.enabled v = true) (hw : k.kind.isWorkload = true)
      (he : k ∈ Slot.consumers → c.endpoint? v = some e)
      (hb : ∀ l ∈ k.before, c.Holds v e s.images l)
      (hf : (k.resource v e s.images).fingerprint? ≠ r.fingerprint?) : Displaces c s v r k
  /-- The data that the workload mounts is not as desired, and all before that is. -/
  | restart {j k : Slot} {e : Endpoint} {current : Resource} (hj : j.dependent? = some k)
      (he : c.endpoint? v = some e) (hb : ∀ l ∈ j.before, c.Holds v e s.images l)
      (ho : c.objects.find? (j.id v.ns) = some current)
      (hd : (j.resource v e s.images).data? ≠ current.data?) : Displaces c s v r k

/-- Only workloads that must be there are displaced. -/
theorem Displaces.enabled (h : c.Displaces s v r k) :
    k.enabled v = true ∧ k.kind.isWorkload = true := by
  cases h with
  | stale hen hw => exact ⟨hen, hw⟩
  | restart hj => exact ⟨(Slot.enabled_of_dependent? hj v).2, (Slot.kind_of_dependent? hj).2⟩

/-- A workload that is displaced is deleted, with label or without. -/
theorem Displaces.deletes (h : c.Displaces s v r k) (hk : c.Keyed) (hv : p.validate = .ok v)
    (hr : c.objects.find? (k.id v.ns) = some r) {answer : PassResult}
    (hanswer : (c.reconcile s p).1 = .ok answer) : c.Deletes s p (k.id v.ns) := by
  have hmem : c.objects.contains (k.id v.ns) = true := contains_iff.2 ⟨r, hr⟩
  refine ((Ends.of_reconcile hk hv s).deletes_iff hk).2 ⟨⟨answer, hanswer⟩, ?_⟩
  cases h with
  | stale hen hw he hb hf => exact ⟨k, _, _, he, hb, .stale hen hr hw hf, rfl, hmem⟩
  | @restart j _ e current hj he hb ho hd =>
      have hwants : c.Wants v e s.images j _ :=
        .drifted (Slot.enabled_of_dependent? hj v).1 ho (hk _ _ ho) (Slot.kind_of_dependent? hj).1 hd
      rw [hj] at hwants
      exact ⟨j, e, _, fun _ => he, hb, hwants, rfl, hmem⟩

/-- The label only protects an object where a component is switched off. -/
theorem Deletes.displaces (h : c.Deletes s p id) (hk : c.Keyed) (hv : p.validate = .ok v)
    (hr : c.objects.find? id = some r) (hm : r.isManaged = false) :
    ∃ k, id = k.id v.ns ∧ c.Displaces s v r k := by
  obtain ⟨-, k, e, a, he, hb, hw, hremoved, -⟩ := ((Ends.of_reconcile hk hv s).deletes_iff hk).1 h
  cases hw with
  | missing => contradiction
  | drifted hen ho _ _ hd =>
      obtain ⟨l, hl, rfl⟩ := Option.map_eq_some_iff.1 hremoved
      exact ⟨l, rfl, .restart hl (he (Slot.mem_consumers_of_dependent? hl)) hb ho hd⟩
  | stale hen ho hw hf =>
      cases hremoved
      rw [hr] at ho
      cases ho
      exact ⟨k, rfl, .stale hen hw he hb hf⟩
  | disabled _ ho hm' =>
      cases hremoved
      rw [hr] at ho
      cases ho
      rw [hm] at hm'
      contradiction

/-- **What happens to objects of someone else.** A pass deletes an object without the operator's
label exactly if it does not fail and the object is a workload under a name of the pipeline, one that
must be there and is displaced: its fingerprint is not the desired one, or the data that it mounts is
not, when the pass gets there.  An object of a component that is switched off is left alone. -/
theorem deletes_foreign_iff (hk : c.Keyed) (hv : p.validate = .ok v)
    (hr : c.objects.find? id = some r) (hm : r.isManaged = false) :
    (c.Deletes s p id ↔ (∃ answer, (c.reconcile s p).1 = .ok answer) ∧
      ∃ k, id = k.id v.ns ∧ c.Displaces s v r k) ∧
    ∀ k : Slot, id = k.id v.ns → k.enabled v = false ∨ k.kind.isWorkload = false →
      ¬ c.Deletes s p id := by
  refine ⟨⟨fun h => ⟨?_, h.displaces hk hv hr hm⟩, ?_⟩, fun k hid hnot h => ?_⟩
  · exact (((Ends.of_reconcile hk hv s).deletes_iff hk).1 h).1
  · rintro ⟨⟨answer, hanswer⟩, k, rfl, h⟩
    exact h.deletes hk hv hr hanswer
  · obtain ⟨l, hid', hdisplaces⟩ := h.displaces hk hv hr hm
    cases Slot.id_inj (hid.symm.trans hid')
    obtain ⟨hen, hw⟩ := hdisplaces.enabled
    rcases hnot with hnot | hnot
    · rw [hen] at hnot
      contradiction
    · rw [hw] at hnot
      contradiction

/-! ## A workload of someone else -/

/-- A workload under the name of the collector that does not carry the operator's label. -/
def strayWorkload : Resource where
  metadata := { Metadata.empty with name := some Component.Collector.name, ns := some "logging" }
  content := .daemonSet none []

/-- A cluster that converged for the small pipeline, with this workload in place of the collector's. -/
def strayed : Cluster :=
  (empty.passes .standard .small 17).seed strayWorkload

theorem id_strayWorkload :
    strayWorkload.id = Slot.collectorWorkload.id Pipeline.small.validated.ns := rfl

/-- The workload is someone else's. -/
theorem isManaged_strayWorkload : strayWorkload.isManaged = false := rfl

theorem keyed_strayed : strayed.Keyed :=
  (keyed_empty.passes .standard .small 17).seed

theorem find?_strayed : strayed.objects.find?
    (Slot.collectorWorkload.id Pipeline.small.validated.ns) = some strayWorkload := by
  rw [strayed, find?_seed, if_pos id_strayWorkload]

/-- All slots but that of the workload hold. -/
theorem holds_strayed (hk : k ≠ .collectorWorkload) : strayed.Holds
    Pipeline.small.validated Pipeline.smallEndpoint Settings.standard.images k := by
  refine (holds_seed ?_).2 (holds_small k)
  rw [id_strayWorkload]
  exact Slot.id_ne hk.symm

/-- Without pending failures, a pass over the small pipeline does not fail. -/
theorem exists_ok_small (hk : c.Keyed) (hf : c.failures = []) :
    ∃ answer, (c.reconcile .standard .small).1 = .ok answer :=
  (outcome_of_no_failures hk (addressed_of_external rfl) Pipeline.validate_small hf .standard 0).1

theorem failures_strayed : strayed.failures = [] := by
  rw [strayed, failures_seed, failures_small]

/-- The stray workload is displaced, since it has no fingerprint. -/
theorem displaces_strayed : strayed.Displaces .standard Pipeline.small.validated strayWorkload
    .collectorWorkload := by
  refine .stale (e := Pipeline.smallEndpoint) rfl rfl (fun _ => rfl) (fun l hl => holds_strayed ?_) ?_
  · rintro rfl
    exact absurd hl (by decide)
  · rw [Slot.fingerprint?_resource]
    exact nofun

theorem deletes_foreign_iff_strayed : strayed.Keyed ∧
    Pipeline.small.validate = .ok Pipeline.small.validated ∧
    strayed.objects.find? (Slot.collectorWorkload.id Pipeline.small.validated.ns)
      = some strayWorkload ∧
    strayWorkload.isManaged = false ∧
    strayed.Deletes .standard .small (Slot.collectorWorkload.id Pipeline.small.validated.ns) := by
  refine ⟨keyed_strayed, Pipeline.validate_small, find?_strayed, isManaged_strayWorkload, ?_⟩
  have hiff := (deletes_foreign_iff (s := .standard) keyed_strayed Pipeline.validate_small
    find?_strayed isManaged_strayWorkload).1
  exact hiff.2 ⟨exists_ok_small keyed_strayed failures_strayed, .collectorWorkload, rfl,
    displaces_strayed⟩

/-- The cluster with the collector's data edited, too. -/
def strayedEdited : Cluster :=
  strayed.seed editedConfig

theorem keyed_strayedEdited : strayedEdited.Keyed :=
  keyed_strayed.seed

theorem failures_strayedEdited : strayedEdited.failures = [] := by
  rw [strayedEdited, failures_seed, failures_strayed]

/-- The workload is still there after the edit. -/
theorem find?_strayedEdited : strayedEdited.objects.find?
    (Slot.collectorWorkload.id Pipeline.small.validated.ns) = some strayWorkload := by
  rw [strayedEdited, find?_seed, if_neg, find?_strayed]
  rw [id_editedConfig]
  exact Slot.id_ne (by decide)

/-- Now it is displaced because the data is not as desired. -/
theorem displaces_strayedEdited : strayedEdited.Displaces .standard Pipeline.small.validated
    strayWorkload .collectorWorkload := by
  refine .restart (j := .collectorConfig) (e := Pipeline.smallEndpoint) rfl rfl (fun l hl => ?_) ?_
    data?_editedConfig_ne
  · have hne : l ≠ .collectorConfig ∧ l ≠ .collectorWorkload := by
      constructor <;> rintro rfl <;> exact absurd hl (by decide)
    refine (holds_seed ?_).2 (holds_strayed hne.2)
    rw [id_editedConfig]
    exact Slot.id_ne hne.1.symm
  · rw [strayedEdited, find?_seed, if_pos id_editedConfig]

/-- The workload of someone else is deleted, as a stale one and together with an update of data. -/
theorem stray_deleted : strayWorkload.isManaged = false ∧
    ∀ c ∈ [strayed, strayedEdited], c.Keyed ∧
      c.objects.find? (Slot.collectorWorkload.id Pipeline.small.validated.ns) = some strayWorkload ∧
      c.Deletes .standard .small (Slot.collectorWorkload.id Pipeline.small.validated.ns) := by
  refine ⟨isManaged_strayWorkload, List.forall_mem_cons.2 ⟨?_, List.forall_mem_singleton.2 ?_⟩⟩
  · obtain ⟨answer, hanswer⟩ := exists_ok_small keyed_strayed failures_strayed
    exact ⟨keyed_strayed, find?_strayed,
      displaces_strayed.deletes keyed_strayed Pipeline.validate_small find?_strayed hanswer⟩
  · obtain ⟨answer, hanswer⟩ := exists_ok_small keyed_strayedEdited failures_strayedEdited
    exact ⟨keyed_strayedEdited, find?_strayedEdited,
      displaces_strayedEdited.deletes keyed_strayedEdited Pipeline.validate_small
        find?_strayedEdited hanswer⟩

end LogOperator.Cluster
