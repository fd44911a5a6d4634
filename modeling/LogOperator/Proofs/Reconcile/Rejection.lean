import LogOperator.Proofs.Reconcile.Order
import LogOperator.Reconcile.Loop

/-!
# LogOperator.Proofs.Reconcile.Rejection

What the loop skips.  A turn remembers the specification that it rejected, until another turn rejects
or reconciles one, and skips every pipeline with this specification.  Whether a pipeline is
well-formed also depends on its own namespace, though, when the specification names none:

* `Operator.comesTo_once` — what a turn comes to, and what is remembered then;
* `Operator.rejected_after` — what is remembered after a history of turns;
* `Operator.skips_iff_remembered` — what is skipped, and which of it is well-formed;
* `Operator.skips_moved` — a pipeline that has moved out of a forbidden namespace is skipped.
-/

namespace LogOperator

/-! ## Pipelines of one specification -/

namespace Pipeline

variable {p q : Pipeline}

/-- Pipelines of one specification have the same violations, unless it leaves the namespace open and
they are in different ones. -/
theorem violations_congr (hspec : q.spec = p.spec)
    (hns : p.spec.ns = "" → p.metadata.ns = q.metadata.ns) : q.violations = p.violations := by
  have htarget : q.target = p.target := by
    unfold target
    rw [hspec]
    split
    · next h => rw [hns h]
    · rfl
  rw [violations, violations, hspec, htarget]

/-- A well-formed pipeline with the specification of an ill-formed one is in another namespace. -/
theorem moved_of_validate {v : ValidPipeline} {violations : List Violation}
    (hspec : q.spec = p.spec) (hq : q.validate = .error violations) (hp : p.validate = .ok v) :
    p.spec.ns = "" ∧ p.metadata.ns ≠ q.metadata.ns := by
  by_contra hsame
  have hcongr : q.violations = p.violations :=
    violations_congr hspec fun h => not_not.1 fun hne => hsame ⟨h, hne⟩
  rw [validate, hcongr, if_pos (eq_validated_of_validate hp).1] at hq
  contradiction

end Pipeline

namespace Outcome

/-- The turn decided about a pipeline, which makes the loop forget what it remembered. -/
def decides : Outcome → Bool
  | reconciled _ | rejected => true
  | _ => false

end Outcome

/-- What a turn of the loop finds: the source and the cluster, whatever became of them meanwhile. -/
structure Circumstances where
  source : Source
  cluster : Cluster

namespace Operator

variable {o : Operator} {p q : Pipeline} {w : Circumstances} {ws : List Circumstances} {spec : Spec}

/-! ## Turns -/

/-- What a turn comes to, and the specification that is remembered then. -/
inductive ComesTo (o : Operator) : Outcome → Option Spec → Prop where
  | unfetched {err : ReconcileError} (hfetch : o.source.fetch.1 = .error err) :
      ComesTo o (.failed err) o.loop.rejected
  | missing (hfetch : o.source.fetch.1 = .ok none) : ComesTo o .missing o.loop.rejected
  | skipped {p : Pipeline} (hfetch : o.source.fetch.1 = .ok (some p))
      (hm : o.loop.rejected = some p.spec) : ComesTo o .skipped o.loop.rejected
  | reconciled {p : Pipeline} {r : PassResult} (hfetch : o.source.fetch.1 = .ok (some p))
      (hm : o.loop.rejected ≠ some p.spec)
      (hr : (o.cluster.reconcile o.settings p).1 = .ok r) : ComesTo o (.reconciled r) none
  | rejected {p : Pipeline} {violations : List Violation}
      (hfetch : o.source.fetch.1 = .ok (some p)) (hm : o.loop.rejected ≠ some p.spec)
      (hv : p.validate = .error violations) : ComesTo o .rejected (some p.spec)
  | failed {p : Pipeline} {err : ReconcileError} (hfetch : o.source.fetch.1 = .ok (some p))
      (hm : o.loop.rejected ≠ some p.spec)
      (hr : (o.cluster.reconcile o.settings p).1 = .error err) :
      ComesTo o (.failed err) o.loop.rejected

/-- Every turn comes to one of these. -/
theorem comesTo_once (o : Operator) : o.ComesTo o.once.1 o.once.2.loop.rejected := by
  cases hfetch : o.source.fetch.1 with
  | error err =>
      have honce : o.once = (.failed err, { o with source := o.source.fetch.2 }) := by
        simp only [once, hfetch]
      rw [honce]
      exact .unfetched hfetch
  | ok fetched =>
      cases fetched with
      | none =>
          have honce : o.once = (.missing, { o with source := o.source.fetch.2 }) := by
            simp only [once, hfetch]
          rw [honce]
          exact .missing hfetch
      | some p =>
          have honce : o.once = { o with source := o.source.fetch.2 }.turn p := by
            simp only [once, hfetch]
          rw [honce, turn]
          split
          · next hm => exact .skipped hfetch hm
          · next hm =>
            simp only [pass]
            split
            · next hr => exact .reconciled hfetch hm (Prod.mk.inj hr).1
            · next hr =>
              exact .rejected hfetch hm (Cluster.invalid_of_reconcile (Prod.mk.inj hr).1)
            · next hr =>
              obtain ⟨hanswer, rfl⟩ := Prod.mk.inj hr
              exact .failed hfetch hm hanswer

/-! ## Histories -/

/-- The operator in the circumstances of its next turn. -/
def meets (o : Operator) (w : Circumstances) : Operator :=
  { o with source := w.source, cluster := w.cluster }

/-- The operator after turns, of which the latest comes first. -/
def after (o : Operator) : List Circumstances → Operator
  | [] => o
  | w :: ws => ((o.after ws).meets w).once.2

/-- The last of some turns that decided about a pipeline rejected this one.  The latest turn comes
first. -/
inductive LastRejected (o : Operator) : List Circumstances → Pipeline → Prop where
  | here {w : Circumstances} {ws : List Circumstances} {q : Pipeline}
      (hfetch : w.source.fetch.1 = .ok (some q)) (hout : ((o.after ws).meets w).once.1 = .rejected) :
      LastRejected o (w :: ws) q
  | earlier {w : Circumstances} {ws : List Circumstances} {q : Pipeline}
      (h : LastRejected o ws q) (hout : ((o.after ws).meets w).once.1.decides = false) :
      LastRejected o (w :: ws) q

/-- **What is remembered**: the specification of the pipeline that was rejected last, unless another
one has been reconciled since. -/
theorem rejected_after (ho : o.loop.rejected = none) (ws : List Circumstances) (spec : Spec) :
    (o.after ws).loop.rejected = some spec ↔ ∃ q, o.LastRejected ws q ∧ q.spec = spec := by
  induction ws with
  | nil =>
      rw [after, ho]
      refine ⟨nofun, ?_⟩
      rintro ⟨q, h, -⟩
      cases h
  | cons w ws ih =>
      have hturn := comesTo_once ((o.after ws).meets w)
      -- a turn that decided nothing has left the memory, and the last rejection, as they were
      have hsame (hout : ((o.after ws).meets w).once.1.decides = false) :
          (∃ q, o.LastRejected (w :: ws) q ∧ q.spec = spec) ↔
            (o.after ws).loop.rejected = some spec := by
        rw [ih]
        refine exists_congr fun q => and_congr_left fun _ => ⟨fun h => ?_, fun h => .earlier h hout⟩
        cases h with
        | here _ hrejected =>
            rw [hrejected] at hout
            contradiction
        | earlier h => exact h
      have hmem : (o.after (w :: ws)).loop.rejected = ((o.after ws).meets w).once.2.loop.rejected :=
        rfl
      rw [hmem]
      generalize hout : ((o.after ws).meets w).once.1 = outcome at hturn
      generalize ((o.after ws).meets w).once.2.loop.rejected = memory at hturn
      cases hturn with
      | unfetched | missing | skipped | failed => exact (hsame (by rw [hout]; rfl)).symm
      | reconciled =>
          refine ⟨nofun, ?_⟩
          rintro ⟨q, h, -⟩
          cases h with
          | here _ hrejected =>
              rw [hrejected] at hout
              contradiction
          | earlier _ hnot =>
              rw [hout] at hnot
              contradiction
      | @rejected q _ hfetch =>
          constructor
          · intro hspec
            exact ⟨q, .here hfetch hout, Option.some.inj hspec⟩
          · rintro ⟨q', h, rfl⟩
            cases h with
            | here hfetch' =>
                cases Except.ok.inj (hfetch.symm.trans hfetch')
                rfl
            | earlier _ hnot =>
                rw [hout] at hnot
                contradiction

/-- What was rejected is ill-formed. -/
theorem LastRejected.invalid (h : o.LastRejected ws q) :
    ∃ violations, q.validate = .error violations := by
  induction h with
  | @here w ws q hfetch hout =>
      have hturn := comesTo_once ((o.after ws).meets w)
      rw [hout] at hturn
      generalize ((o.after ws).meets w).once.2.loop.rejected = memory at hturn
      cases hturn with
      | rejected hfetch' _ hv =>
          cases Except.ok.inj (hfetch.symm.trans hfetch')
          exact ⟨_, hv⟩
  | earlier _ _ ih => exact ih

/-! ## What is skipped -/

/-- A turn with a pipeline that is not remembered runs a pass over it. -/
theorem once_of_fresh (hfetch : o.source.fetch.1 = .ok (some p))
    (hm : o.loop.rejected ≠ some p.spec) {v : ValidPipeline} (hv : p.validate = .ok v) :
    (∃ r, o.once.1 = .reconciled r ∧ (o.cluster.reconcile o.settings p).1 = .ok r) ∨
      ∃ err, o.once.1 = .failed err ∧ (o.cluster.reconcile o.settings p).1 = .error err := by
  have hturn := o.comesTo_once
  generalize o.once.1 = outcome at hturn
  generalize o.once.2.loop.rejected = memory at hturn
  cases hturn with
  | unfetched hfetch' | missing hfetch' => cases hfetch.symm.trans hfetch'
  | skipped hfetch' hm' =>
      cases hfetch.symm.trans hfetch'
      exact absurd hm' hm
  | rejected hfetch' _ hv' =>
      cases hfetch.symm.trans hfetch'
      cases hv.symm.trans hv'
  | reconciled hfetch' _ hr =>
      cases hfetch.symm.trans hfetch'
      exact .inl ⟨_, rfl, hr⟩
  | failed hfetch' _ hr =>
      cases hfetch.symm.trans hfetch'
      exact .inr ⟨_, rfl, hr⟩

/-- A turn with an ill-formed pipeline that is not remembered rejects it. -/
theorem once_of_invalid {violations : List Violation} (hfetch : o.source.fetch.1 = .ok (some p))
    (hm : o.loop.rejected ≠ some p.spec) (hv : p.validate = .error violations) :
    o.once.1 = .rejected := by
  simp only [once, hfetch, turn, if_neg hm, pass, Cluster.reconcile, hv]

/-- A turn is skipped exactly if the specification is the one that was rejected. -/
theorem once_eq_skipped_iff :
    o.once.1 = .skipped ↔ ∃ p, o.source.fetch.1 = .ok (some p) ∧ o.loop.rejected = some p.spec := by
  have hturn := o.comesTo_once
  generalize o.once.1 = outcome at hturn
  generalize o.once.2.loop.rejected = memory at hturn
  cases hturn with
  | skipped hfetch hm => exact ⟨fun _ => ⟨_, hfetch, hm⟩, fun _ => rfl⟩
  | unfetched hfetch | missing hfetch =>
      refine ⟨nofun, ?_⟩
      rintro ⟨p, hfetch', -⟩
      cases hfetch.symm.trans hfetch'
  | reconciled hfetch hm | rejected hfetch hm | failed hfetch hm =>
      refine ⟨nofun, ?_⟩
      rintro ⟨p, hfetch', hm'⟩
      cases hfetch.symm.trans hfetch'
      exact absurd hm' hm

theorem settings_turn (o : Operator) (p : Pipeline) : (o.turn p).2.settings = o.settings := by
  unfold turn pass
  split
  · rfl
  · split <;> next hr => rw [← (Prod.mk.inj hr).2]

theorem settings_once (o : Operator) : o.once.2.settings = o.settings := by
  cases hfetch : o.source.fetch.1 with
  | error err => simp only [once, hfetch]
  | ok fetched =>
      cases fetched with
      | none => simp only [once, hfetch]
      | some p =>
          simp only [once, hfetch]
          exact settings_turn _ p

theorem settings_after (o : Operator) (ws : List Circumstances) :
    (o.after ws).settings = o.settings := by
  induction ws with
  | nil => rfl
  | cons w ws ih => rw [after, settings_once, meets, ih]

/-- **The loop skips what it remembers.** After any history of turns from a fresh loop on, a turn
skips the pipeline that it fetched exactly if the last turn that decided about a pipeline rejected
one of the same specification.  Such a pipeline is ill-formed, unless the specification leaves the
namespace open and the pipeline is in another namespace than the rejected one.  Any other pipeline
that is well-formed gets its pass. -/
theorem skips_iff_remembered (ho : o.loop.rejected = none) (ws : List Circumstances)
    (w : Circumstances) :
    (((o.after ws).meets w).once.1 = .skipped ↔
      ∃ p q, w.source.fetch.1 = .ok (some p) ∧ o.LastRejected ws q ∧ q.spec = p.spec) ∧
    (∀ p q : Pipeline, o.LastRejected ws q → q.spec = p.spec →
      (∃ violations, p.validate = .error violations) ∨
        p.spec.ns = "" ∧ p.metadata.ns ≠ q.metadata.ns) ∧
    (∀ (p : Pipeline) v, w.source.fetch.1 = .ok (some p) → p.validate = .ok v →
      (∀ q, o.LastRejected ws q → q.spec ≠ p.spec) →
      (∃ r, ((o.after ws).meets w).once.1 = .reconciled r ∧
        (w.cluster.reconcile o.settings p).1 = .ok r) ∨
      ∃ err, ((o.after ws).meets w).once.1 = .failed err ∧
        (w.cluster.reconcile o.settings p).1 = .error err) := by
  have hmem (p : Pipeline) : ((o.after ws).meets w).loop.rejected = some p.spec ↔
      ∃ q, o.LastRejected ws q ∧ q.spec = p.spec := rejected_after ho ws p.spec
  refine ⟨?_, fun p q h hspec => ?_, fun p v hfetch hv hnot => ?_⟩
  · rw [once_eq_skipped_iff]
    refine exists_congr fun p => ?_
    rw [hmem p, exists_and_left]
    rfl
  · obtain ⟨violations, hq⟩ := h.invalid
    cases hp : p.validate with
    | error violations => exact .inl ⟨violations, rfl⟩
    | ok v => exact .inr (Pipeline.moved_of_validate hspec hq hp)
  · have hnot : ((o.after ws).meets w).loop.rejected ≠ some p.spec := fun hm => by
      obtain ⟨q, h, hspec⟩ := (hmem p).1 hm
      exact hnot q h hspec
    have hpass := once_of_fresh (o := (o.after ws).meets w) hfetch hnot hv
    rw [show ((o.after ws).meets w).settings = o.settings from settings_after o ws] at hpass
    exact hpass

/-! ## A pipeline that has moved -/

/-- The small pipeline in the namespace that components may not be put into. -/
def misplaced : Pipeline :=
  { Pipeline.small with metadata := { Pipeline.small.metadata with ns := some "default" } }

/-- A loop that has not run. -/
def idle : Operator :=
  ⟨.standard, .empty, .fresh, .empty⟩

/-- A source that delivers a pipeline, beside an empty cluster. -/
def delivering (p : Pipeline) : Circumstances :=
  ⟨⟨some p, []⟩, .empty⟩

theorem lastRejected_misplaced : idle.LastRejected [delivering misplaced] misplaced := by
  have hv : misplaced.validate = .error misplaced.violations := if_neg (by decide)
  exact .here rfl (once_of_invalid rfl nofun hv)

/-- The pipeline that was rejected is skipped as long as it stays. -/
theorem skips_iff_remembered_misplaced : idle.loop.rejected = none ∧
    ((idle.after [delivering misplaced]).meets (delivering misplaced)).once.1 = .skipped := by
  have ho : idle.loop.rejected = none := rfl
  have hiff := (skips_iff_remembered ho [delivering misplaced] (delivering misplaced)).1
  exact ⟨ho, hiff.2 ⟨misplaced, misplaced, rfl, lastRejected_misplaced, rfl⟩⟩

/-- The pipeline is skipped when it has moved to a namespace in which it is well-formed. -/
theorem skips_moved : Pipeline.small.validate = .ok Pipeline.small.validated ∧
    (delivering .small).source.fetch.1 = .ok (some .small) ∧
    ((idle.after [delivering misplaced]).meets (delivering .small)).once.1 = .skipped := by
  have hm : (idle.after [delivering misplaced]).loop.rejected = some Pipeline.small.spec :=
    (rejected_after rfl _ _).2 ⟨misplaced, lastRejected_misplaced, rfl⟩
  exact ⟨Pipeline.validate_small, rfl, once_eq_skipped_iff.2 ⟨.small, rfl, hm⟩⟩

end Operator

end LogOperator
