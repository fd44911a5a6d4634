import LogOperator.Proofs.Reconcile.Stability

/-!
# LogOperator.Proofs.Reconcile.Run

Runs of the operator: passes over any pipelines under any settings, with failures asked for in
between (`Cluster.run`), and in particular one pass after the other over the same pipeline
(`Cluster.passes`).  `Cluster.outcome` is what such a pass answers.

* `Keyed.run` — objects are stored under their own identities after every run;
* `passes_of_converged` — a pass that converged is repeated by every later one.
-/

namespace LogOperator

/-- What happens to a cluster: a pass of the operator, or that a failure is asked for. -/
inductive Event where
  | pass (s : Settings) (p : Pipeline)
  | failure (op : Operation) (id : Id)

namespace Cluster

variable {c : Cluster} {s : Settings} {p : Pipeline} {v : ValidPipeline}

/-! ## Events -/

/-- The cluster after an event. -/
def step (c : Cluster) : Event → Cluster
  | .pass s p => (c.reconcile s p).2
  | .failure op id => c.injectFailure op id

/-- The cluster after several events. -/
def run (c : Cluster) (events : List Event) : Cluster :=
  events.foldl step c

theorem run_append (c : Cluster) (events later : List Event) :
    c.run (events ++ later) = (c.run events).run later :=
  List.foldl_append

/-- A pass over a pipeline that is ill-formed leaves the cluster alone; any other has an end. -/
theorem reconcile_cases (hk : c.Keyed) (s : Settings) (p : Pipeline) :
    (c.reconcile s p).2 = c ∨ ∃ v, p.validate = .ok v ∧ c.Ends s v (c.reconcile s p) := by
  cases hv : p.validate with
  | error violations => exact .inl (by rw [reconcile_of_invalid hv])
  | ok v =>
      refine .inr ⟨v, rfl, ?_⟩
      rw [reconcile_of_validate hv]
      exact .of_reconcileValid hk (Pipeline.locates_of_validate hv) s

/-- A pass over a valid pipeline ends in one of the ways that passes can. -/
theorem Ends.of_reconcile (hk : c.Keyed) (hv : p.validate = .ok v) (s : Settings) :
    c.Ends s v (c.reconcile s p) := by
  rw [reconcile_of_validate hv]
  exact .of_reconcileValid hk (Pipeline.locates_of_validate hv) s

/-- Without pending failures, a pass carries out the action of the first consumer that wants one. -/
theorem reconcile_of_wants {k : Slot} {a : Action} (hk : c.Keyed) (hf : c.failures = [])
    (hv : p.validate = .ok v) (hc : k ∈ Slot.consumers) (he : c.endpoint? v = some e)
    (hb : ∀ l ∈ k.before, c.Holds v e s.images l) (hw : c.Wants v e s.images k a) :
    ∃ answer, c.reconcile s p = (.ok (.changed a answer s.timing.change), c.perform a) := by
  rcases (Ends.of_reconcile hk hv s).acts_of_wants hk (grounded_of_before hc he hb) hb hw with
    ⟨id, hmem, -⟩ | ⟨answer, acted, ha, hpass⟩
  · rw [hf] at hmem
    contradiction
  · rw [hpass, ha.eq_perform hf]
    exact ⟨answer, rfl⟩

theorem Keyed.reconcile (hk : c.Keyed) (s : Settings) (p : Pipeline) :
    (c.reconcile s p).2.Keyed := by
  rcases reconcile_cases hk s p with hc | ⟨v, -, hend⟩
  · rw [hc]
    exact hk
  · exact hend.keyed hk

theorem Keyed.step (hk : c.Keyed) (event : Event) : (c.step event).Keyed := by
  cases event with
  | pass s p => exact hk.reconcile s p
  | failure op id => exact hk.injectFailure

/-- **Whatever happens**, objects are stored under their own identities. -/
theorem Keyed.run (hk : c.Keyed) (events : List Event) : (c.run events).Keyed := by
  induction events generalizing c with
  | nil => exact hk
  | cons event events ih => exact ih (hk.step event)

/-! ## Passes over one pipeline -/

/-- The cluster after a number of passes. -/
def passes (c : Cluster) (s : Settings) (p : Pipeline) : Nat → Cluster
  | 0 => c
  | n + 1 => ((c.passes s p n).reconcile s p).2

/-- What the pass after a number of others answers. -/
def outcome (c : Cluster) (s : Settings) (p : Pipeline) (n : Nat) :
    Except ReconcileError PassResult :=
  ((c.passes s p n).reconcile s p).1

/-- Passes in a row are passes after passes. -/
theorem passes_add (c : Cluster) (s : Settings) (p : Pipeline) (m n : Nat) :
    c.passes s p (m + n) = (c.passes s p m).passes s p n := by
  induction n with
  | zero => rfl
  | succ n ih => rw [← Nat.add_assoc, passes, passes, ih]

theorem passes_succ (c : Cluster) (s : Settings) (p : Pipeline) (n : Nat) :
    c.passes s p (n + 1) = (c.reconcile s p).2.passes s p n := by
  rw [Nat.add_comm, passes_add]
  rfl

theorem outcome_succ (c : Cluster) (s : Settings) (p : Pipeline) (n : Nat) :
    c.outcome s p (n + 1) = (c.reconcile s p).2.outcome s p n := by
  rw [outcome, passes_succ, outcome]

/-- Passes over one pipeline are a run of such events. -/
theorem run_replicate (c : Cluster) (s : Settings) (p : Pipeline) (n : Nat) :
    c.run (List.replicate n (.pass s p)) = c.passes s p n := by
  induction n generalizing c with
  | zero => rfl
  | succ n ih =>
      rw [List.replicate_succ, passes_succ, ← ih]
      rfl

theorem Keyed.passes (hk : c.Keyed) (s : Settings) (p : Pipeline) (n : Nat) :
    (c.passes s p n).Keyed := by
  rw [← run_replicate]
  exact hk.run _

/-- Passes leave the endpoint where the cluster has it. -/
theorem Grounded.passes (hg : c.Grounded v s.images e) (hk : c.Keyed) (hv : p.validate = .ok v)
    (n : Nat) : (c.passes s p n).Grounded v s.images e := by
  induction n with
  | zero => exact hg
  | succ n ih => exact (Ends.of_reconcile (hk.passes s p n) hv s).grounded (hk.passes s p n) ih

/-- What a pass wants of a slot, it wants for the endpoint that later passes know, too. -/
theorem Wants.of_passes {a : Action} {e' : Endpoint} (hw : c.Wants v e s.images k a)
    (hk : c.Keyed) (hv : p.validate = .ok v) (hb : ∀ l ∈ k.before, c.Holds v e s.images l)
    (he : k ∈ Slot.consumers → c.endpoint? v = some e) {n : Nat}
    (he' : (c.passes s p n).endpoint? v = some e') : c.Wants v e' s.images k a := by
  rcases List.mem_append.1 k.mem_all with hf | hc
  · exact hw.of_mem_foundation hk hf e'
  · have hg := (grounded_of_before hc (he hc) hb).passes hk hv n
    rw [← Option.some.inj (hg.endpoint.symm.trans he')]
    exact hw

/-- Passes that answer, without the first of them. -/
theorem ok_of_ok_succ {n : Nat} (hok : ∀ i < n + 1, ∃ r, c.outcome s p i = .ok r) :
    ∀ i < n, ∃ r, (c.reconcile s p).2.outcome s p i = .ok r := by
  intro i hi
  rw [← outcome_succ]
  exact hok (i + 1) (by omega)

/-- What every pass that answers keeps, and what it changes, hold of several such passes. -/
theorem exists_follows_passes {P : Cluster → Prop} {Q : Id → Prop}
    (hstep : ∀ c r, P c → (c.reconcile s p).1 = .ok r → P (c.reconcile s p).2 ∧
      ∃ ms, c.Follows (c.reconcile s p).2 ms ∧ ∀ id ∈ ms.map (·.id), Q id)
    (hc : P c) {n : Nat} (hok : ∀ i < n, ∃ r, c.outcome s p i = .ok r) :
    ∃ ms, c.Follows (c.passes s p n) ms ∧ ∀ id ∈ ms.map (·.id), Q id := by
  induction n generalizing c with
  | zero => exact ⟨[], Follows.refl c, fun id hid => nomatch hid⟩
  | succ n ih =>
      obtain ⟨r, hr⟩ := hok 0 (by omega)
      obtain ⟨hc', ms, hfollows, hms⟩ := hstep c r hc hr
      obtain ⟨ms', hfollows', hms'⟩ := ih hc' (ok_of_ok_succ hok)
      refine ⟨ms ++ ms', ?_, fun id hid => ?_⟩
      · rw [passes_succ]
        exact hfollows.trans hfollows'
      · rw [List.map_append, List.mem_append] at hid
        exact hid.elim (hms id) (hms' id)

/-- Passes that answer only add to the log. -/
theorem exists_follows_of_ok (hk : c.Keyed) (hv : p.validate = .ok v) {n : Nat}
    (hok : ∀ i < n, ∃ r, c.outcome s p i = .ok r) : ∃ ms, c.Follows (c.passes s p n) ms := by
  have hstep : ∀ (c : Cluster) r, c.Keyed → (c.reconcile s p).1 = .ok r →
      (c.reconcile s p).2.Keyed ∧
      ∃ ms, c.Follows (c.reconcile s p).2 ms ∧ ∀ id ∈ ms.map Mutation.id, True := by
    intro c r hk hr
    have hend : c.Ends s v (c.reconcile s p) := Ends.of_reconcile hk hv s
    refine ⟨hend.keyed hk, ?_⟩
    rcases hend.of_ok hr with ⟨_, -, -, hsame⟩ | ⟨k, e, a, -, -, hw, hperform⟩
    · rw [hsame]
      exact ⟨[], Follows.refl c, fun _ _ => trivial⟩
    · rw [hperform]
      exact ⟨c.changes a, hw.follows.1, fun _ _ => trivial⟩
  obtain ⟨ms, hfollows, -⟩ := exists_follows_passes hstep hk hok
  exact ⟨ms, hfollows⟩

/-- A pass that converged found every slot as desired and left the cluster alone. -/
theorem Ends.of_converged {reply : Reply PassResult} {r : PassResult} (h : c.Ends s v reply)
    (hr : reply.1 = .ok r) (hc : r.converged = true) :
    ∃ e, r = .settled e s.timing.resync ∧ reply.2 = c ∧ c.endpoint? v = some e ∧
      c.reached? s v = some e ∧ ∀ k, c.Holds v e s.images k := by
  cases h with
  | converged he hreach hall => exact ⟨_, (Except.ok.inj hr).symm, rfl, he, hreach, hall⟩
  | unresolved | unread => contradiction
  | acts _ _ _ _ ha =>
      cases ha with
      | refused | halved => contradiction
      | done =>
          cases hr
          contradiction

/-- After a pass that converged, passes change nothing. -/
theorem passes_eq_of_converged (hk : c.Keyed) (hv : p.validate = .ok v) {n : Nat} {r : PassResult}
    (hr : c.outcome s p n = .ok r) (hc : r.converged = true) {m : Nat} (hm : n ≤ m) :
    c.passes s p m = c.passes s p n := by
  have hfix : ((c.passes s p n).reconcile s p).2 = c.passes s p n := by
    obtain ⟨e, -, hsame, -⟩ := (Ends.of_reconcile (hk.passes s p n) hv s).of_converged hr hc
    exact hsame
  induction hm with
  | refl => rfl
  | step hm ih => rw [Cluster.passes, ih, hfix]

/-- After a pass that converged, every pass answers the same and changes nothing. -/
theorem passes_of_converged (hk : c.Keyed) (hv : p.validate = .ok v) {n : Nat} {r : PassResult}
    (hr : c.outcome s p n = .ok r) (hc : r.converged = true) {m : Nat} (hm : n ≤ m) :
    c.outcome s p m = .ok r ∧ c.passes s p (m + 1) = c.passes s p n := by
  refine ⟨?_, passes_eq_of_converged hk hv hr hc (by omega)⟩
  rw [outcome, passes_eq_of_converged hk hv hr hc hm]
  exact hr

end Cluster

end LogOperator
