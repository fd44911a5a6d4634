import LogOperator.Proofs.Reconcile.Drift
import LogOperator.Proofs.Reconcile.Run

/-!
# LogOperator.Proofs.Reconcile.Lifecycle

The phases that an action tells of, and those that the objects of the cluster are in (`Cluster.phase`).
The phases of an action are a table beside what carrying it out does; here the two are compared:

* `Cluster.phase_eq_before` — the phase before is the one that the target is in;
* `Cluster.phase_perform` — the phase passed through settles in the one that the target is in afterwards;
* `Cluster.Applies.phase_of_error` — an action that fails leaves its target in the phase it was in;
* `Cluster.transition_truthful` — all this of the action that an entry calls for;
* `Cluster.Keyed.transition_of_reconcile` — the phases of all objects before and after a pass.
-/

namespace LogOperator

/-- What a phase settles in depends on whether an object was written. -/
theorem Action.settled_via (a : Action) :
    a.via.settled = if a.resource?.isSome then .present else .absent := by
  cases a <;> rfl

namespace Cluster

variable {c c' : Cluster} {x : Entry} {a : Action} {id : Id} {reply : Reply Unit}

/-- The phase of an object that no call is under way for. -/
def phase (c : Cluster) (id : Id) : Phase :=
  if c.objects.contains id then .present else .absent

/-- The phase of an object depends on whether it is there. -/
theorem phase_congr (h : c'.objects.find? id = c.objects.find? id) : c'.phase id = c.phase id := by
  rw [phase, phase, Dict.contains, Dict.contains, h]

/-- An action starts in the phase that its target is in. -/
theorem phase_eq_before (h : a.before = .present ↔ c.objects.contains a.target = true) :
    c.phase a.target = a.before := by
  rw [phase]
  split
  · next hc => exact (h.2 hc).symm
  · next hc =>
    have hne : a.before ≠ .present := fun hb => hc (h.1 hb)
    cases a with
    | create r => rfl
    | updatePayload | delete | recreate => exact absurd rfl hne

/-- An action that succeeds ends in the phase that it passes into. -/
theorem phase_perform (h : a.dependent? ≠ some a.target) :
    (c.perform a).phase a.target = a.via.settled := by
  rw [phase, Dict.contains, find?_perform_target h, Option.isSome_map, Action.settled_via]

/-- The workload that is deleted besides is absent afterwards. -/
theorem phase_perform_dependent (h : a.dependent? = some id) : (c.perform a).phase id = .absent := by
  have hremoved : a.removed? = some id := by
    cases a with
    | updatePayload => exact h
    | create | delete | recreate => contradiction
  rw [phase, Dict.contains, find?_perform_removed hremoved]
  rfl

/-- A call that fails leaves the target as it is, or the failed one comes after the update. -/
theorem Applies.phase_of_error {err : ReconcileError} (h : c.Applies a reply)
    (hb : a.before = .present ↔ c.objects.contains a.target = true) (hr : reply.1 = .error err) :
    reply.2.phase a.target = a.before := by
  cases h with
  | refused => exact phase_eq_before hb
  | @halved r dependent =>
      have hw : (c.write .update r).phase r.id = .present := by
        rw [phase, Dict.contains, find?_write_self]
        rfl
      exact hw
  | done => contradiction

/-- **What is told of a lifecycle is true.**  The action that an entry calls for is about the entry's
object.  The phase before is the one that this object is in; if the action succeeds, the object is in the
phase that the action settles in, whether or not a workload is deleted besides, and if it fails, the object
is in the phase that it was in. -/
theorem transition_truthful (hk : c.Keyed) (hx : x.dependent? ≠ some x.id)
    (ha : c.demand x = some a) :
    a.target = x.id ∧ a.before = c.phase a.target ∧
    (∀ c', c.apply a = (.ok (), c') → a.via.settled = c'.phase a.target) ∧
    ∀ err c', c.apply a = (.error err, c') → a.before = c'.phase a.target := by
  obtain ⟨ht, hb⟩ := hk.target_of_demand ha
  refine ⟨ht, (phase_eq_before hb).symm, fun c' hc' => ?_, fun err c' hc' => ?_⟩
  · obtain ⟨-, rfl⟩ := (apply_eq_ok_iff hb).1 hc'
    exact (phase_perform (KeyedAt.dependent?_ne_target (hk x.id) hx ha)).symm
  · have happly := applies_apply hb
    rw [hc'] at happly
    exact (happly.phase_of_error hb rfl).symm

/-- The parsers are updated, and their workload is deleted: the parsers are there before and after. -/
theorem transition_truthful_outdated :
    let a := Action.updatePayload (parsers "new" (some "42")) (some (shipper "new").id)
    outdated.demand parsersEntry = some a ∧ a.target = parsersEntry.id ∧
    outdated.phase a.target = .present ∧ a.via = .updating ∧
    ∃ c, outdated.apply a = (.ok (), c) ∧ c.phase a.target = .present := by
  intro a
  have hb := (keyed_outdated.target_of_demand demand_outdated_parsers).2
  have hok : outdated.apply a = (.ok (), outdated.perform a) :=
    (apply_eq_ok_iff hb).2 ⟨fun _ _ => List.not_mem_nil, rfl⟩
  obtain ⟨ht, hbefore, hafter, -⟩ :=
    transition_truthful keyed_outdated (by decide) demand_outdated_parsers
  exact ⟨demand_outdated_parsers, ht, hbefore.symm, rfl, _, hok, (hafter _ hok).symm⟩

/-! ## Passes -/

section Passes

variable {s : Settings} {v : ValidPipeline} {p : Pipeline} {r : PassResult}

/-- **The transition that a pass reports has taken place**, and no other. -/
theorem Ends.transition {reply : Reply PassResult} (h : c.Ends s v reply) (hk : c.Keyed) (hr : reply.1 = .ok r)
    (ha : r.action = some a) :
    a.before = c.phase a.target ∧ a.via.settled = reply.2.phase a.target ∧
    (∀ id, a.dependent? = some id → reply.2.phase id = .absent) ∧
    ∀ id, a.target ≠ id → a.dependent? ≠ some id → reply.2.phase id = c.phase id := by
  cases h with
  | converged =>
      cases hr
      contradiction
  | unresolved | unread => contradiction
  | acts _ _ _ hw happly =>
      cases happly with
      | refused | halved => contradiction
      | done =>
          cases hr
          cases ha
          have hb := (hk.target_of_demand (hw.demand hk)).2
          exact ⟨(phase_eq_before hb).symm, (phase_perform hw.dependent?_ne_target).symm,
            fun id => phase_perform_dependent, fun id ht hd => phase_congr (find?_perform_of_ne ht hd)⟩

/-- The phases before and after a pass that answers with an action: the target goes through the phases of
the action, the workload that is deleted besides is absent, and all other objects stay in their phase. -/
theorem Keyed.transition_of_reconcile (hk : c.Keyed) (hr : (c.reconcile s p).1 = .ok r)
    (ha : r.action = some a) :
    a.before = c.phase a.target ∧ a.via.settled = (c.reconcile s p).2.phase a.target ∧
    (∀ id, a.dependent? = some id → (c.reconcile s p).2.phase id = .absent) ∧
    ∀ id, a.target ≠ id → a.dependent? ≠ some id →
      (c.reconcile s p).2.phase id = c.phase id := by
  cases hv : p.validate with
  | ok v => exact (Ends.of_reconcile hk hv s).transition hk hr ha
  | error vs =>
      rw [reconcile_of_invalid hv] at hr
      contradiction

end Passes

end Cluster

end LogOperator
