import LogOperator.Proofs.Reconcile.Footprint

/-!
# LogOperator.Proofs.Reconcile.Tenancy

Pipelines that share a cluster.  Each has a namespace of its own, and they have two objects in
common, the role and its binding, which a pass creates when they are missing and never touches again.
So a pass of one pipeline never undoes what another one has got, and leaves it no more to do:

* `Ends.elsewhere` — what a pass does to the slots of another namespace;
* `Settled.elsewhere`, `Ends.potential_elsewhere` — what converged stays so, and what has not is not
  set back;
* `Settled.turns`, `settled_or_ahead` — the same over passes in any order;
* `tenants_undisturbed` — each pipeline converges as soon as it would alone, and for good.
-/

namespace LogOperator

namespace Cluster

variable {c : Cluster} {s : Settings} {p : Pipeline} {v w : ValidPipeline} {images : Images}
  {e : Endpoint} {k : Slot} {reply : Reply PassResult}

/-! ## Passes in another namespace -/

/-- A slot that does not hold needs something. -/
theorem Keyed.one_le_backlog (hk : c.Keyed) (h : ¬ c.Holds v e images k) :
    1 ≤ c.backlog v e images k := by
  unfold backlog
  split
  · exact Nat.le_refl 1
  · cases hd : c.demand (k.entry v e images) with
    | none => exact absurd ((hk.demand_entry_eq_none_iff k).1 hd) h
    | some a => exact a.one_le_effort

/-- What namespaces share, every pipeline needs. -/
theorem not_holds_of_shared (hn : k.kind.isNamespaced = false)
    (hnone : c.objects.find? (k.id v.ns) = none) : ¬ c.Holds v e images k := by
  rw [holds_iff_of_enabled (Slot.of_not_isNamespaced hn v).1, hnone]
  rintro ⟨r, hr, -⟩
  contradiction

namespace Ends

/-- A pass over another namespace leaves the object of a slot alone, unless its kind has no
namespace. -/
theorem find?_elsewhere (h : c.Ends s w reply) (hns : w.ns ≠ v.ns)
    (hn : k.kind.isNamespaced = true) :
    reply.2.objects.find? (k.id v.ns) = c.objects.find? (k.id v.ns) :=
  h.frame (Slot.not_mem_footprint (Slot.id_ns_of_isNamespaced hn) hns)

/-- A pass in another namespace leaves an object alone, unless it is a shared one that was missing. -/
theorem elsewhere (h : c.Ends s w reply) (hns : w.ns ≠ v.ns) (k : Slot) :
    reply.2.objects.find? (k.id v.ns) = c.objects.find? (k.id v.ns) ∨
      k.kind.isNamespaced = false ∧ c.objects.find? (k.id v.ns) = none := by
  cases hn : k.kind.isNamespaced with
  | true => exact .inl (h.find?_elsewhere hns hn)
  | false => exact (h.shared hn v.ns).imp_right fun hnone => ⟨rfl, hnone⟩

/-- What holds still holds after a pass over another namespace. -/
theorem holds_elsewhere (h : c.Ends s w reply) (hns : w.ns ≠ v.ns) (hh : c.Holds v e images k) :
    reply.2.Holds v e images k := by
  rcases h.elsewhere hns k with hsame | ⟨hn, hnone⟩
  · exact (holds_congr hsame).2 hh
  · exact absurd hh (not_holds_of_shared hn hnone)

theorem endpoint?_elsewhere (h : c.Ends s w reply) (hns : w.ns ≠ v.ns) :
    reply.2.endpoint? v = c.endpoint? v :=
  endpoint?_congr (h.find?_elsewhere hns rfl)

theorem addressed_elsewhere (h : c.Ends s w reply) (hns : w.ns ≠ v.ns) (hs : c.Addressed v) :
    reply.2.Addressed v := by
  have hfind := h.find?_elsewhere hns (k := .searchService) rfl
  intro hm r hr
  exact hs hm r (hfind.symm.trans hr)

/-- No pass over another namespace adds to the backlog of a slot. -/
theorem backlog_elsewhere (h : c.Ends s w reply) (hk : c.Keyed) (hns : w.ns ≠ v.ns) (k : Slot) :
    reply.2.backlog v e images k ≤ c.backlog v e images k := by
  rcases h.elsewhere hns k with hsame | ⟨hn, hnone⟩
  · have hdoomed : reply.2.doomed v e images k = c.doomed v e images k :=
      doomed_congr fun l hl => h.find?_elsewhere hns
        (Slot.isNamespaced_of_configMap (Slot.kind_of_dependent? hl).1)
    rw [backlog, backlog, hdoomed, demand_entry_congr hsame]
  · obtain ⟨-, hwork⟩ := Slot.of_not_isNamespaced hn v
    have hbefore : 1 ≤ c.backlog v e images k := hk.one_le_backlog (not_holds_of_shared hn hnone)
    have hafter := (h.keyed hk).backlog_le v e images k
    rw [effortBound, if_neg (by simp [hwork])] at hafter
    exact hafter.trans hbefore

theorem pending_elsewhere (h : c.Ends s w reply) (hk : c.Keyed) (hns : w.ns ≠ v.ns)
    (ks : List Slot) : reply.2.pending v e images ks ≤ c.pending v e images ks :=
  List.sum_le_sum fun k _ => h.backlog_elsewhere hk hns k

/-- **A pass in another namespace leaves no more to do.** -/
theorem potential_elsewhere (h : c.Ends s w reply) (hk : c.Keyed) (hns : w.ns ≠ v.ns) :
    reply.2.potential v images ≤ c.potential v images := by
  have hle : reply.2.pending v default images Slot.foundation
      ≤ c.pending v default images Slot.foundation := h.pending_elsewhere hk hns _
  rcases Nat.lt_or_eq_of_le hle with hlt | heq
  · exact Nat.le_of_lt ((h.keyed hk).potential_lt hlt)
  · rw [potential, potential, heq, h.endpoint?_elsewhere hns]
    split
    · cases c.endpoint? v with
      | none => exact Nat.le_refl _
      | some e => exact h.pending_elsewhere hk hns Slot.consumers
    · exact Nat.le_refl _

end Ends

/-! ## Converged clusters -/

/-- A pipeline has nothing left to do: its endpoint is known, and every slot holds. -/
structure Settled (c : Cluster) (v : ValidPipeline) (images : Images) (e : Endpoint) : Prop where
  endpoint : c.endpoint? v = some e
  holds : ∀ k, c.Holds v e images k

namespace Settled

/-- A pass that converged found everything settled, and changed nothing. -/
theorem of_converged {r : PassResult} (h : c.Ends s v reply) (hr : reply.1 = .ok r)
    (hc : r.converged = true) : ∃ e, r = .settled e s.timing.resync ∧ reply.2 = c ∧
      c.Settled v s.images e := by
  obtain ⟨e, hres, hsame, he, -, hall⟩ := h.of_converged hr hc
  exact ⟨e, hres, hsame, he, hall⟩

/-- A pass over a pipeline that is settled finds nothing to do, unless a call fails. -/
theorem reconcile (h : c.Settled v s.images e) (hk : c.Keyed) (hf : c.failures = [])
    (hv : p.validate = .ok v) : c.reconcile s p = (.ok (.settled e s.timing.resync), c) := by
  have hend := Ends.of_reconcile hk hv s
  generalize c.reconcile s p = reply at hend
  cases hend with
  | converged he => rw [Option.some.inj (he.symm.trans h.endpoint)]
  | unresolved he =>
      rw [h.endpoint] at he
      contradiction
  | unread hget =>
      rw [hf] at hget
      contradiction
  | acts _ he _ hw _ =>
      have hg : c.Grounded v s.images e := ⟨fun k _ => h.holds k, h.endpoint⟩
      obtain ⟨-, rfl⟩ := Ends.grounded_acts hk hg (fun hc => (he hc).1) hw
      exact absurd (h.holds _) hw.not_holds

/-- A pipeline that is settled stays so after a pass over another namespace. -/
theorem elsewhere (h : c.Settled v images e) (hend : c.Ends s w reply) (hns : w.ns ≠ v.ns) :
    reply.2.Settled v images e :=
  ⟨(hend.endpoint?_elsewhere hns).trans h.endpoint, fun k => hend.holds_elsewhere hns (h.holds k)⟩

end Settled

end Cluster

/-! ## Tenants -/

/-- A pipeline that shares a cluster with others, and the settings of its operator. -/
structure Tenant where
  settings : Settings
  pipeline : Pipeline
  valid : ValidPipeline
  validates : pipeline.validate = .ok valid

namespace Cluster

variable {ι : Type} {tenants : ι → Tenant} {c : Cluster} {i j : ι} {e : Endpoint}

/-- A pass of a tenant. -/
def serve (c : Cluster) (t : Tenant) : Reply PassResult :=
  c.reconcile t.settings t.pipeline

/-- The cluster after passes of the tenants in some order. -/
def turns (c : Cluster) (tenants : ι → Tenant) (order : List ι) : Cluster :=
  c.run (order.map fun i => .pass (tenants i).settings (tenants i).pipeline)

theorem turns_cons (c : Cluster) (tenants : ι → Tenant) (i : ι) (order : List ι) :
    c.turns tenants (i :: order) = (c.serve (tenants i)).2.turns tenants order := rfl

theorem turns_append (c : Cluster) (tenants : ι → Tenant) (order later : List ι) :
    c.turns tenants (order ++ later) = (c.turns tenants order).turns tenants later := by
  rw [turns, List.map_append, run_append]
  rfl

/-- The tenants can work on the cluster: objects are under their identities, no call will fail, and
the Services of search engines have addresses. -/
structure Ready (c : Cluster) (tenants : ι → Tenant) : Prop where
  keyed : c.Keyed
  failures : c.failures = []
  addressed : ∀ i, c.Addressed (tenants i).valid

theorem Ready.ends (hc : c.Ready tenants) (i : ι) :
    c.Ends (tenants i).settings (tenants i).valid (c.serve (tenants i)) :=
  .of_reconcile hc.keyed (tenants i).validates _

/-- **Every turn gets its tenant ahead.** -/
theorem Ready.advances (hc : c.Ready tenants) (i : ι) :
    c.Advances (tenants i).settings (tenants i).valid (c.serve (tenants i)).1
      (c.serve (tenants i)).2 :=
  advances_of_validate hc.keyed (hc.addressed i) (tenants i).validates _

/-- Whoever has a turn, it stays like that. -/
theorem Ready.serve (hc : c.Ready tenants)
    (hns : ∀ i j, i ≠ j → (tenants i).valid.ns ≠ (tenants j).valid.ns) (i : ι) :
    (c.serve (tenants i)).2.Ready tenants where
  keyed := (hc.ends i).keyed hc.keyed
  failures := by
    have hsub := (hc.advances i).failures_subset
    rw [hc.failures] at hsub
    exact List.subset_nil.1 hsub
  addressed j := by
    by_cases hij : i = j
    · exact hij ▸ (hc.ends i).addressed (hc.addressed i)
    · exact (hc.ends i).addressed_elsewhere (hns i j hij) (hc.addressed j)

/-- Tenants stay ready, in whatever order they are served. -/
theorem Ready.turns (hc : c.Ready tenants)
    (hns : ∀ i j, i ≠ j → (tenants i).valid.ns ≠ (tenants j).valid.ns) (order : List ι) :
    (c.turns tenants order).Ready tenants := by
  induction order generalizing c with
  | nil => exact hc
  | cons i order ih => exact ih (hc.serve hns i)

/-- **A tenant that is settled stays so**, whoever has turns. -/
theorem Settled.turns (h : c.Settled (tenants i).valid (tenants i).settings.images e)
    (hc : c.Ready tenants)
    (hns : ∀ i j, i ≠ j → (tenants i).valid.ns ≠ (tenants j).valid.ns) (order : List ι) :
    (c.turns tenants order).Settled (tenants i).valid (tenants i).settings.images e := by
  induction order generalizing c with
  | nil => exact h
  | cons j order ih =>
      have hturn : (c.serve (tenants j)).2.Settled (tenants i).valid (tenants i).settings.images
          e := by
        by_cases hji : j = i
        · have hfix : c.serve (tenants i) = (_, c) :=
            h.reconcile hc.keyed hc.failures (tenants i).validates
          rw [hji, hfix]
          exact h
        · exact h.elsewhere (hc.ends j) (hns j i hji)
      exact ih hturn (hc.serve hns j)

/-- A tenant is settled after some turns, or each of its own turns has left it less to do. -/
theorem settled_or_ahead [DecidableEq ι] (hc : c.Ready tenants)
    (hns : ∀ i j, i ≠ j → (tenants i).valid.ns ≠ (tenants j).valid.ns) (i : ι) (order : List ι) :
    (∃ e, (c.turns tenants order).Settled (tenants i).valid (tenants i).settings.images e) ∨
      (c.turns tenants order).potential (tenants i).valid (tenants i).settings.images
          + order.count i
        ≤ c.potential (tenants i).valid (tenants i).settings.images := by
  induction order generalizing c with
  | nil => exact .inr (Nat.le_refl _)
  | cons j order ih =>
      have hlater := ih (hc.serve hns j)
      by_cases hji : j = i
      · subst hji
        have hadv := hc.advances j
        have hend := hc.ends j
        have hready := hc.serve hns j
        rw [turns_cons, List.count_cons_self]
        generalize c.serve (tenants j) = reply at hadv hend hready hlater
        obtain ⟨answer, c'⟩ := reply
        cases hadv with
        | converged e =>
            obtain ⟨e, -, -, hsettled⟩ := Settled.of_converged hend rfl rfl
            exact .inl ⟨e, hsettled.turns hc hns order⟩
        | acted hf hlt =>
            refine hlater.imp_right fun hle => ?_
            simp only at hlt hle ⊢
            omega
        | failed hmem =>
            rw [hc.failures] at hmem
            contradiction
      · have hle : (c.serve (tenants j)).2.potential (tenants i).valid (tenants i).settings.images
            ≤ c.potential (tenants i).valid (tenants i).settings.images :=
          (hc.ends j).potential_elsewhere hc.keyed (hns j i hji)
        rw [turns_cons, List.count_cons_of_ne hji]
        exact hlater.imp_right fun hlater => hlater.trans hle

/-- **Tenants do not disturb each other.** Let pipelines with namespaces of their own share a cluster
without pending failures, in which the Services of their search engines have addresses if they are
there, and let their passes be interleaved in any order.  The seventeenth pass of each pipeline, and
every later one, converges; once one did, every later pass of the pipeline answers the same and
changes nothing; and no pass changes an object in the namespace of another pipeline. -/
theorem tenants_undisturbed [DecidableEq ι]
    (hns : ∀ i j, i ≠ j → (tenants i).valid.ns ≠ (tenants j).valid.ns) (hk : c.Keyed)
    (hf : c.failures = []) (hs : ∀ i, c.Addressed (tenants i).valid) (order : List ι) (i : ι) :
    (16 ≤ order.count i → ∃ r,
      ((c.turns tenants order).serve (tenants i)).1 = .ok r ∧ r.converged = true) ∧
    (∀ r, ((c.turns tenants order).serve (tenants i)).1 = .ok r → r.converged = true →
      ∀ later, (c.turns tenants (order ++ i :: later)).serve (tenants i)
        = (.ok r, c.turns tenants (order ++ i :: later))) ∧
    ∀ j ≠ i, ∀ id, id.ns = some (tenants j).valid.ns →
      ((c.turns tenants order).serve (tenants i)).2.objects.find? id
        = (c.turns tenants order).objects.find? id := by
  have hstart : c.Ready tenants := ⟨hk, hf, hs⟩
  have hc := hstart.turns hns order
  refine ⟨fun hcount => ?_, fun r hr hconv later => ?_, fun j hji id hid => ?_⟩
  · rcases settled_or_ahead hstart hns i order with ⟨e, hsettled⟩ | hahead
    · have hfix := hsettled.reconcile hc.keyed hc.failures (tenants i).validates
      exact ⟨_, congrArg Prod.fst hfix, rfl⟩
    · -- all sixteen actions are used up, so that the pass cannot act
      have hbound := hk.potential_le (tenants i).valid (tenants i).settings.images
      have hadv := hc.advances i
      generalize ((c.turns tenants order).serve (tenants i)).1 = answer at hadv
      generalize ((c.turns tenants order).serve (tenants i)).2 = c' at hadv
      cases hadv with
      | converged e => exact ⟨_, rfl, rfl⟩
      | acted _ hlt => omega
      | failed hmem =>
          rw [hc.failures] at hmem
          contradiction
  · obtain ⟨e, rfl, hsame, hsettled⟩ := Settled.of_converged (hc.ends i) hr hconv
    rw [turns_append, turns_cons, hsame]
    have hlater := hc.turns hns later
    exact (hsettled.turns hc hns later).reconcile hlater.keyed hlater.failures (tenants i).validates
  · exact (hc.ends i).frame (Slot.not_mem_footprint hid (hns i j hji.symm))

end Cluster

/-! ## A pair of tenants -/

/-- A pipeline with a search engine of its own, and one without in another namespace. -/
def Tenant.pair : Bool → Tenant
  | true => ⟨.standard, .selfContained, _, Pipeline.validate_selfContained⟩
  | false => ⟨.standard, .elsewhere, _, Pipeline.validate_elsewhere⟩

theorem Tenant.pair_ns_ne {i j : Bool} (h : i ≠ j) : (pair i).valid.ns ≠ (pair j).valid.ns := by
  cases i <;> cases j <;> first | contradiction | decide

namespace Cluster

/-- Taking turns from the empty cluster on, both have converged after sixteen passes each. -/
theorem tenants_undisturbed_pair :
    (∀ i j, i ≠ j → (Tenant.pair i).valid.ns ≠ (Tenant.pair j).valid.ns) ∧ empty.Keyed ∧
    empty.failures = [] ∧ (∀ i, empty.Addressed (Tenant.pair i).valid) ∧
    ∀ i, ∃ r, ((empty.turns Tenant.pair (List.replicate 16 [true, false]).flatten).serve
      (Tenant.pair i)).1 = .ok r ∧ r.converged = true := by
  have hns : ∀ i j, i ≠ j → (Tenant.pair i).valid.ns ≠ (Tenant.pair j).valid.ns :=
    fun _ _ => Tenant.pair_ns_ne
  have hs : ∀ i, empty.Addressed (Tenant.pair i).valid := fun _ => addressed_empty
  refine ⟨hns, keyed_empty, rfl, hs, fun i => ?_⟩
  have hcount : 16 ≤ (List.replicate 16 [true, false]).flatten.count i := by
    cases i <;> decide
  exact (tenants_undisturbed hns keyed_empty rfl hs _ i).1 hcount

end Cluster

end LogOperator
