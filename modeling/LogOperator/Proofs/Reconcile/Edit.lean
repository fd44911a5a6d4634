import LogOperator.Proofs.Reconcile.Provenance

/-!
# LogOperator.Proofs.Reconcile.Edit

What an edit of a pipeline touches.  In a cluster that converged for one pipeline, passes over
another one act on a slot only if the desired states differ there: an object that was not touched
yet is as the first pipeline wants it, and one that was touched differs already.  The one change
beside that, the deletion of the workload that mounts data, is one of a workload that differs with
the data.

* `differsAt_of_wants` — a slot that wants an action differs;
* `edit_touches` — the changes are those that the difference of the desired states asks for.
-/

namespace LogOperator

open Fingerprint

namespace Cluster

variable {c c' : Cluster} {s s' : Settings} {p p' : Pipeline} {v v' : ValidPipeline}
  {images images' : Images} {e e' : Endpoint} {a : Action} {k : Slot} {ms : List Mutation} {n : Nat}

/-- Where all objects are the operator's, a slot holds if its object matches the desired one. -/
theorem holds_iff_matches (hm : ∀ id r, c.objects.find? id = some r → r.isManaged = true) :
    c.Holds v e images k ↔
      Matches ((DesiredState.build v e images).object? (k.id v.ns))
        (c.objects.find? (k.id v.ns)) := by
  rw [Slot.object?_build, Holds]
  cases hr : c.objects.find? (k.id v.ns) with
  | none => split <;> simp [Matches]
  | some r =>
      split
      · simp [Matches]
      · have hmanaged := hm _ r hr
        simp [Matches, hmanaged]

/-! ## Where an edit leads -/

/-- A slot that wants an action for another pipeline than the one that the cluster converged for
differs, unless it was touched already. -/
theorem differsAt_of_wants (hns : v'.ns = v.ns)
    (hm : ∀ id r, c.objects.find? id = some r → r.isManaged = true)
    (hall : ∀ k, c.Holds v e images k) (hw : c'.Wants v' e' images' k a)
    (hsame : c'.objects.find? (k.id v'.ns) = c.objects.find? (k.id v'.ns)) :
    (DesiredState.build v e images).DiffersAt (DesiredState.build v' e' images') (k.id v.ns) := by
  intro hmatch
  have hx := (holds_iff_matches hm).1 (hall k)
  have hx' := DesiredState.matches_of_left hx hmatch
  rw [← hns] at hx'
  exact hw.not_holds ((holds_congr hsame).2 ((holds_iff_matches hm).2 hx'))

/-- Two clusters that converged for two pipelines have the same object only where the desired states
do not differ. -/
theorem not_differsAt (hns : v'.ns = v.ns)
    (hm : ∀ id r, c.objects.find? id = some r → r.isManaged = true)
    (hall : ∀ k, c.Holds v e images k) (hall' : ∀ k, c'.Holds v' e' images' k) {id : Id}
    (hsame : c'.objects.find? id = c.objects.find? id) :
    ¬ (DesiredState.build v e images).DiffersAt (DesiredState.build v' e' images') id := by
  intro hdiff
  apply hdiff
  by_cases hslot : ∃ k : Slot, id = k.id v.ns
  · obtain ⟨k, rfl⟩ := hslot
    have hx := (holds_iff_matches hm).1 (hall k)
    have hx' := hall' k
    rw [← hns] at hsame
    rw [holds_congr hsame, holds_iff_matches hm, hns] at hx'
    exact DesiredState.matches_of_both hx hx'
  · have hne : ∀ k : Slot, id ≠ k.id v.ns := fun k hk => hslot ⟨k, hk⟩
    rw [Slot.object?_build_eq_none hne, Slot.object?_build_eq_none (hns ▸ hne)]
    exact .none

/-- As long as passes over the second pipeline do not fail, their changes are about identities at
which the desired states differ.  The second state is the one for the endpoint that is known in the
end; as long as it is not, the passes act on the foundation, which does not depend on it. -/
theorem exists_follows (hk : c.Keyed) (hv' : p'.validate = .ok v') (hns : v'.ns = v.ns)
    (hm : ∀ id r, c.objects.find? id = some r → r.isManaged = true)
    (hall : ∀ k, c.Holds v e images k)
    (hcol : ∀ k : Slot, CollisionFree
      ((k.parts? v e images).toList ++ (k.parts? v' e' s'.images).toList))
    (hok : ∀ i < n, ∃ r, c.outcome s' p' i = .ok r)
    (he' : (c.passes s' p' n).endpoint? v' = some e') {i : Nat} (hi : i ≤ n) :
    ∃ ms, c.Follows (c.passes s' p' i) ms ∧ ∀ id ∈ ms.map (·.id),
      (DesiredState.build v e images).DiffersAt (DesiredState.build v' e' s'.images) id := by
  induction i with
  | zero => exact ⟨[], Follows.refl c, fun id hid => nomatch hid⟩
  | succ i ih =>
      obtain ⟨ms, hfollows, hdiffers⟩ := ih (by omega)
      obtain ⟨r, hr⟩ := hok i (by omega)
      have hki := hk.passes s' p' i
      rcases (Ends.of_reconcile hki hv' s').of_ok hr with
        ⟨_, -, -, hsame⟩ | ⟨k, ei, a, he, hb, hw, hperform⟩
      · refine ⟨ms, ?_, hdiffers⟩
        rw [passes, hsame]
        exact hfollows
      · rw [← Nat.add_sub_cancel' (show i ≤ n by omega), passes_add] at he'
        have hw' := hw.of_passes hki hv' hb he he'
        have hself : (DesiredState.build v e images).DiffersAt
            (DesiredState.build v' e' s'.images) (k.id v.ns) := by
          by_cases htouched : k.id v.ns ∈ ms.map (·.id)
          · exact hdiffers _ htouched
          · rw [← hns] at htouched
            exact differsAt_of_wants hns hm hall hw' (hfollows.frame _ htouched)
        obtain ⟨hstep, hids⟩ := hw'.follows
        refine ⟨ms ++ (c.passes s' p' i).changes a, ?_, fun id hid => ?_⟩
        · rw [passes, hperform]
          exact hfollows.trans hstep
        · rw [List.map_append, List.mem_append] at hid
          rcases hid with hid | hid
          · exact hdiffers id hid
          · rcases hids id hid with rfl | ⟨l, hl, rfl⟩
            · rw [hns]
              exact hself
            · rw [hns]
              exact Slot.differsAt_of_dependent hl hns (hcol l) hself

/-- **Minimal changes.** In a cluster that was reached from an empty one by passes in a namespace,
the last of which converged, let passes over another pipeline of the namespace run until one
converges, and none fail.  Then the identities that were changed are those at which the two desired
states differ, and every other object is as it was, provided that no workload's inputs collide. -/
theorem edit_touches {history : List Event} (hhistory : ∀ event ∈ history, event.Targets v.ns)
    (hv : p.validate = .ok v) (hv' : p'.validate = .ok v') (hns : v'.ns = v.ns)
    (hcol : ∀ k : Slot, CollisionFree
      ((k.parts? v e s.images).toList ++ (k.parts? v' e' s'.images).toList))
    (hlast : (empty.run history).reconcile s p = (.ok (.settled e s.timing.resync), c))
    (hok : ∀ i < n, ∃ r, c.outcome s' p' i = .ok r)
    (hlast' : c.outcome s' p' n = .ok (.settled e' s'.timing.resync)) :
    (∀ id, id ∈ ((c.passes s' p' (n + 1)).logSince c).map (·.id) ↔
      (DesiredState.build v e s.images).DiffersAt (DesiredState.build v' e' s'.images) id) ∧
    ∀ id, id ∉ ((c.passes s' p' (n + 1)).logSince c).map (·.id) →
      (c.passes s' p' (n + 1)).objects.find? id = c.objects.find? id := by
  have hbuilt := built_empty.run (I := fun _ => []) hhistory
  obtain ⟨e₀, hr₀, hsame, -, -, hall⟩ :=
    (Ends.of_reconcile hbuilt.keyed hv s).of_converged (congrArg Prod.fst hlast) rfl
  cases hr₀
  rw [hlast] at hsame
  have hc : empty.run history = c := hsame.symm
  rw [hc] at hbuilt hall
  have hk := hbuilt.keyed
  have hm : ∀ id r, c.objects.find? id = some r → r.isManaged = true :=
    fun _ _ hr => hbuilt.isManaged hr
  obtain ⟨he', hall'⟩ := holds_of_settled hk hv' hlast' (Nat.le_refl n)
  have hfix := passes_eq_of_converged hk hv' hlast' rfl (Nat.le_succ n)
  obtain ⟨ms, hfollows, hdiffers⟩ :=
    exists_follows hk hv' hns hm hall hcol hok he' (Nat.le_refl n)
  rw [hfix, hfollows.logSince_eq]
  refine ⟨fun id => ⟨hdiffers id, fun hdiff => ?_⟩, hfollows.frame⟩
  by_contra hid
  exact not_differsAt hns hm hall hall' (hfollows.frame id hid) hdiff

/-! ## An edit of the small pipeline -/

/-- The dashboard takes nothing away from the inputs of the workloads. -/
theorem parts?_withDashboard (k : Slot) :
    k.parts? Pipeline.withDashboard.validated e images
      = k.parts? Pipeline.small.validated e images := by
  cases k <;> rfl

/-- The inputs of all workloads but the dashboard are the same before and after, and so collide with
nothing. -/
theorem collisionFree_withDashboard (k : Slot) : CollisionFree
    ((k.parts? Pipeline.small.validated Pipeline.smallEndpoint Settings.standard.images).toList
      ++ (k.parts? Pipeline.withDashboard.validated Pipeline.smallEndpoint
        Settings.standard.images).toList) := by
  rw [parts?_withDashboard]
  cases hps : k.parts? Pipeline.small.validated Pipeline.smallEndpoint Settings.standard.images with
  | none => exact ⟨nofun, nofun⟩
  | some ps => exact collisionFree_of_forall_eq (Pipeline.sized_small k hps) (by simp)

theorem endpoint?_withDashboard (h : c.endpoint? Pipeline.withDashboard.validated = some e) :
    e = Pipeline.smallEndpoint :=
  (Option.some.inj h).symm

/-- An empty cluster converges for the small pipeline. -/
theorem exists_settled_small : ∃ m c, c.Keyed ∧ c.failures = [] ∧
    (empty.run (List.replicate m (.pass .standard .small))).reconcile .standard .small
      = (.ok (.settled Pipeline.smallEndpoint Settings.standard.timing.resync), c) := by
  obtain ⟨m, e, he, hlast⟩ := exists_settled keyed_empty addressed_empty Pipeline.validate_small
    .standard
  rw [endpoint?_small he] at hlast
  refine ⟨m, empty.passes .standard .small m, keyed_empty.passes .standard .small m, ?_, ?_⟩
  · exact (outcome_of_no_failures keyed_empty addressed_empty Pipeline.validate_small rfl
      .standard m).2
  · rw [run_replicate]
    exact hlast

/-- A cluster without pending failures converges for the pipeline with a dashboard, and no pass
fails. -/
theorem exists_settled_withDashboard (hk : c.Keyed) (hf : c.failures = []) : ∃ n,
    (∀ i < n, ∃ r, c.outcome .standard .withDashboard i = .ok r) ∧
    c.outcome .standard .withDashboard n
      = .ok (.settled Pipeline.smallEndpoint Settings.standard.timing.resync) := by
  have hs : c.Addressed Pipeline.withDashboard.validated := addressed_of_external rfl
  obtain ⟨n, e, he, hlast⟩ := exists_settled hk hs Pipeline.validate_withDashboard .standard
  rw [endpoint?_withDashboard he] at hlast
  refine ⟨n, fun i _ => ?_, ?_⟩
  · exact (outcome_of_no_failures hk hs Pipeline.validate_withDashboard hf .standard i).1
  · rw [outcome, hlast]

/-- Switching the dashboard on. -/
theorem edit_touches_withDashboard : ∃ m c n,
    (empty.run (List.replicate m (.pass .standard .small))).reconcile .standard .small
      = (.ok (.settled Pipeline.smallEndpoint Settings.standard.timing.resync), c) ∧
    (∀ i < n, ∃ r, c.outcome .standard .withDashboard i = .ok r) ∧
    c.outcome .standard .withDashboard n
      = .ok (.settled Pipeline.smallEndpoint Settings.standard.timing.resync) ∧
    ∀ id, id ∈ ((c.passes .standard .withDashboard (n + 1)).logSince c).map (·.id) ↔
      (DesiredState.build Pipeline.small.validated Pipeline.smallEndpoint
        Settings.standard.images).DiffersAt (DesiredState.build Pipeline.withDashboard.validated
          Pipeline.smallEndpoint Settings.standard.images) id := by
  obtain ⟨m, c, hk, hf, hlast⟩ := exists_settled_small
  obtain ⟨n, hok, hlast'⟩ := exists_settled_withDashboard hk hf
  have hhistory : ∀ event ∈ List.replicate m (Event.pass .standard .small),
      event.Targets Pipeline.small.validated.ns :=
    fun _ => Event.targets_of_mem_replicate Pipeline.validate_small
  have htouched := edit_touches hhistory Pipeline.validate_small Pipeline.validate_withDashboard rfl
    collisionFree_withDashboard hlast hok hlast'
  exact ⟨m, c, n, hlast, hok, hlast', htouched.1⟩

end Cluster

end LogOperator
