import LogOperator.Proofs.Reconcile.Restart

/-!
# LogOperator.Proofs.Reconcile.Report

What a pass answers, against what it did to the cluster.  The action of a pass is the first one that
its entries call for (`Cluster.due?`); the answer tells which changes were logged
(`Cluster.recorded`) and which failure was used up (`injected?`):

* `Ends.due?_eq` — a pass that gets to an action gets to the one that is due;
* `Ends.recorded` — the log grew by what the answer tells of, and nothing else changed;
* `Ends.failures_eq` — a failure was used up exactly if the answer is that failure;
* `report_truthful` — all of this for every pass.
-/

namespace LogOperator

/-- The failure that an answer tells of, if it is one that was asked for. -/
def injected? {α : Type} : Except ReconcileError α → Option (Operation × Id)
  | .error (.store op id .injected) => some (op, id)
  | _ => none

namespace Cluster

variable {c c' : Cluster} {s : Settings} {p : Pipeline} {v : ValidPipeline} {images : Images}
  {e : Endpoint} {a : Action} {k : Slot} {ks : List Slot} {reply : Reply PassResult}

/-! ## The action that is due -/

/-- The first action that the entries of a valid pipeline call for.  What the consumers of the
endpoint call for is known once the endpoint is. -/
def firstDemand? (c : Cluster) (s : Settings) (v : ValidPipeline) : Option Action :=
  ((DesiredState.foundation v s.images).entries.findSome? c.demand).or <|
    (c.endpoint? v).bind fun e =>
      (DesiredState.build v e s.images).remaining.entries.findSome? c.demand

/-- The action that a pass applies, unless a call fails before: none if the pipeline is ill-formed,
otherwise the first one that its entries call for. -/
def due? (c : Cluster) (s : Settings) (p : Pipeline) : Option Action :=
  p.validate.toOption.bind (c.firstDemand? s)

/-- What a pass is due to do is the first demand of the desired state. -/
theorem due?_of_validate (hv : p.validate = .ok v) : c.due? s p = c.firstDemand? s v := by
  rw [due?, hv]
  rfl

/-- Slots that hold demand nothing. -/
theorem Keyed.findSome?_demand_eq_none (hk : c.Keyed) (h : ∀ k ∈ ks, c.Holds v e images k) :
    (ks.map (Slot.entry v e images)).findSome? c.demand = none := by
  rw [List.findSome?_eq_none_iff]
  intro x hx
  obtain ⟨k, hks, rfl⟩ := List.mem_map.1 hx
  exact (hk.demand_entry_eq_none_iff k).2 (h k hks)

/-- Among several slots, the action of the first one that wants any. -/
theorem Keyed.findSome?_demand (hk : c.Keyed) {bs as : List Slot}
    (hb : ∀ l ∈ bs, c.Holds v e images l) (hw : c.Wants v e images k a) :
    ((bs ++ k :: as).map (Slot.entry v e images)).findSome? c.demand = some a := by
  rw [List.map_append, List.findSome?_append, hk.findSome?_demand_eq_none hb, Option.none_or,
    List.map_cons, List.findSome?_cons_of_isSome (by rw [hw.demand hk]; rfl), hw.demand hk]

/-- A slot that wants an action, while those before it hold, has the action that is due. -/
theorem Keyed.firstDemand?_eq (hk : c.Keyed) (hb : ∀ l ∈ k.before, c.Holds v e s.images l)
    (hw : c.Wants v e s.images k a) (he : k ∈ Slot.consumers → c.endpoint? v = some e) :
    c.firstDemand? s v = some a := by
  rw [firstDemand?, Slot.entries_foundation v e]
  rcases List.mem_append.1 k.mem_all with hf | hc
  · obtain ⟨bs, as, hsplit⟩ := List.append_of_mem hf
    have hbefore : bs = k.before := Slot.eq_before (as ++ Slot.consumers) (by simp [Slot.all, hsplit])
    rw [hsplit, hk.findSome?_demand (hbefore ▸ hb) hw, Option.some_or]
  · obtain ⟨bs, as, hsplit⟩ := List.append_of_mem hc
    have hbefore : Slot.foundation ++ bs = k.before := Slot.eq_before as (by simp [Slot.all, hsplit])
    have hfoundation : ∀ l ∈ Slot.foundation, c.Holds v e s.images l := fun l hl =>
      hb l (Slot.mem_before_of_foundation hl hc)
    have hbs : ∀ l ∈ bs, c.Holds v e s.images l := fun l hl =>
      hb l (hbefore ▸ List.mem_append_right _ hl)
    rw [hk.findSome?_demand_eq_none hfoundation, Option.none_or, he hc, Option.bind_some,
      Slot.entries_remaining, hsplit, hk.findSome?_demand hbs hw]

/-- Where every slot holds, nothing is due. -/
theorem Keyed.firstDemand?_eq_none (hk : c.Keyed) (he : c.endpoint? v = some e)
    (hall : ∀ k, c.Holds v e s.images k) : c.firstDemand? s v = none := by
  rw [firstDemand?, Slot.entries_foundation v e, hk.findSome?_demand_eq_none fun k _ => hall k,
    Option.none_or, he, Option.bind_some, Slot.entries_remaining,
    hk.findSome?_demand_eq_none fun k _ => hall k]

/-! ## Changes that are told of -/

/-- The changes that an action stands for; a workload that is to be deleted after an update need not
be there. -/
def announced (c : Cluster) : Action → List Mutation
  | .create r => [⟨.create, r.id⟩]
  | .updatePayload r dependent =>
    ⟨.update, r.id⟩ :: (dependent.toList.filter c.objects.contains).map (⟨.delete, ·⟩)
  | .delete id | .recreate id => [⟨.delete, id⟩]

/-- The changes that stay of an action when a call fails: none, unless the call was to delete the
workload whose data was updated just before. -/
def salvaged (due : Option Action) : ReconcileError → List Mutation
  | .store .delete id .injected =>
    match due with
    | some (.updatePayload r (some dependent)) => if dependent = id then [⟨.update, r.id⟩] else []
    | _ => []
  | _ => []

/-- The changes that the answer of a pass tells of, by the action that was due. -/
def recorded (c : Cluster) (due : Option Action) :
    Except ReconcileError PassResult → List Mutation
  | .ok r => (r.action.map c.announced).getD []
  | .error err => salvaged due err

/-- What is deleted was there. -/
theorem Wants.changes_eq (hw : c.Wants v e images k a) (hk : c.Keyed) :
    c.changes a = c.announced a := by
  have hc := (hk.target_of_demand (hw.demand hk)).2
  cases a with
  | create | updatePayload => rfl
  | delete id | recreate id => exact if_pos (hc.1 rfl)

namespace Ends

/-- A pass that answers applied what was due. -/
theorem due?_eq {r : PassResult} (h : c.Ends s v reply) (hk : c.Keyed) (hr : reply.1 = .ok r) :
    r.action = c.firstDemand? s v ∧ (r.converged = true ↔ r.action = none) := by
  cases h with
  | converged he _ hall =>
      cases hr
      exact ⟨(hk.firstDemand?_eq_none he hall).symm, by simp [PassResult.settled]⟩
  | unresolved | unread => contradiction
  | acts _ he hb hw ha =>
      cases ha with
      | refused | halved => contradiction
      | done =>
          cases hr
          exact ⟨(hk.firstDemand?_eq hb hw fun hc => (he hc).1).symm, by simp [PassResult.changed]⟩

/-- **The log tells the same as the answer**, and whatever is not in it is as it was. -/
theorem recorded (h : c.Ends s v reply) (hk : c.Keyed) :
    c.Follows reply.2 (c.recorded (c.firstDemand? s v) reply.1) := by
  cases h with
  | converged | unresolved => exact Follows.refl c
  | unread => exact follows_spend c .get _
  | @acts k e a reply _ he hb hw ha =>
      have hdue := hk.firstDemand?_eq hb hw fun hc => (he hc).1
      rw [hdue]
      cases ha with
      | refused hf =>
          -- a call that fails at once leaves nothing, whichever it is
          cases a with
          | create | updatePayload | delete | recreate => exact follows_spend c _ _
      | @halved r dependent hu hf =>
          have hkept : c.recorded (some (.updatePayload r (some dependent)))
              (.error (.store .delete dependent .injected)) = [⟨.update, r.id⟩] := if_pos rfl
          have hwrite := (follows_write c .update r).trans (follows_spend _ .delete dependent)
          rw [List.append_nil, ← hkept] at hwrite
          exact hwrite
      | done =>
          have hfollows := hw.follows.1
          rw [hw.changes_eq hk] at hfollows
          exact hfollows

/-- **A failure is used up exactly if the answer is that failure.** -/
theorem failures_eq (h : c.Ends s v reply) :
    (∀ call, injected? reply.1 = some call → call ∈ c.failures) ∧
    reply.2.failures = (injected? reply.1).elim c.failures c.failures.erase := by
  cases h with
  | converged | unresolved => exact ⟨nofun, rfl⟩
  | unread hf =>
      refine ⟨?_, rfl⟩
      rintro _ ⟨⟩
      exact hf
  | acts _ _ _ _ ha =>
      cases ha with
      | refused hf | halved _ hf =>
          refine ⟨?_, rfl⟩
          rintro _ ⟨⟩
          exact hf
      | done => exact ⟨nofun, failures_perform c _⟩

/-- A pass over a valid pipeline does not reject it. -/
theorem ne_invalidSpec (h : c.Ends s v reply) (violations : List Violation) :
    reply.1 ≠ .error (.invalidSpec violations) := by
  cases h with
  | converged | unresolved | unread => exact nofun
  | acts _ _ _ _ ha => cases ha <;> exact nofun

end Ends

/-- **Every pass reports truthfully.** The log grows by the changes that the answer tells of, and
objects that it does not name stay: nothing if the pass converged, the changes of its one action if
it acted, and nothing if it failed, except for the update of data whose workload could not be
deleted.  The action is the one that is due.  An ill-formed pipeline leaves the cluster as it is.
At most one pending failure is used up, and one is exactly if it is the answer. -/
theorem report_truthful (hk : c.Keyed) (s : Settings) (p : Pipeline) :
    c.Follows (c.reconcile s p).2 (c.recorded (c.due? s p) (c.reconcile s p).1) ∧
    (∀ r, (c.reconcile s p).1 = .ok r →
      r.action = c.due? s p ∧ (r.converged = true ↔ r.action = none)) ∧
    (∀ violations, (c.reconcile s p).1 = .error (.invalidSpec violations) →
      (c.reconcile s p).2 = c) ∧
    (∀ call, injected? (c.reconcile s p).1 = some call → call ∈ c.failures) ∧
    (c.reconcile s p).2.failures
      = (injected? (c.reconcile s p).1).elim c.failures c.failures.erase := by
  cases hv : p.validate with
  | error violations =>
      rw [reconcile_of_invalid hv]
      generalize c.due? s p = due
      refine ⟨Follows.refl c, fun r hr => ?_, fun _ _ => rfl, fun call hcall => ?_, rfl⟩
      · cases hr
      · cases hcall
  | ok v =>
      have hend := Ends.of_reconcile hk hv s
      rw [due?_of_validate hv]
      exact ⟨hend.recorded hk, fun r hr => hend.due?_eq hk hr,
        fun violations hr => absurd hr (hend.ne_invalidSpec violations), hend.failures_eq⟩

/-- The cluster whose data was edited: all that is logged is the update. -/
theorem report_truthful_tampered : tampered.Keyed ∧ ∃ c',
    tampered.reconcile .standard .small = (.error (.store .delete
      (Slot.collectorWorkload.id Pipeline.small.validated.ns) .injected), c') ∧
    tampered.recorded (tampered.due? .standard .small) (.error (.store .delete
      (Slot.collectorWorkload.id Pipeline.small.validated.ns) .injected))
        = [⟨.update, Slot.collectorConfig.id Pipeline.small.validated.ns⟩] := by
  obtain ⟨c', hpass, hlog, -⟩ := reconcile_tampered
  have hfollows := (report_truthful keyed_tampered .standard .small).1
  rw [hpass] at hfollows
  exact ⟨keyed_tampered, c', hpass, List.append_cancel_left (hfollows.log.symm.trans hlog)⟩

end Cluster

end LogOperator
