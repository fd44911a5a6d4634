import LogOperator.Reconcile.Pass

/-!
# LogOperator.Reconcile.Loop

The loop of the operator: fetch the pipeline, run a pass, wait as long as the outcome asks for, and start
again until stopped.  A specification that was rejected is skipped until it changes.

* `Operator.once`: one turn of the loop.
* `Operator.run`: turns on a clock, until the loop is stopped.
-/

namespace LogOperator

/-- Where the pipeline is read from. -/
structure Source where
  pipeline : Option Pipeline
  /-- The reasons for which the coming fetches fail, one each. -/
  failures : List String
deriving Inhabited

namespace Source

def empty : Source :=
  ⟨none, []⟩

/-- The pipeline, if there is one, and the source after the fetch. -/
def fetch (s : Source) : Except ReconcileError (Option Pipeline) × Source :=
  match s.failures with
  | [] => (.ok s.pipeline, s)
  | reason :: failures => (.error (.pipelineUnavailable reason), { s with failures := failures })

/-- The source with another specification in its pipeline, if it has one. -/
def setSpec (s : Source) (spec : Spec) : Source :=
  { s with pipeline := s.pipeline.map fun p => { p with spec := spec } }

end Source

/-- What a turn of the loop came to. -/
inductive Outcome where
  | reconciled (result : PassResult)
  /-- There is no pipeline. -/
  | missing
  /-- The pipeline is ill-formed. -/
  | rejected
  /-- The pipeline is as it was when it was rejected. -/
  | skipped
  | failed (error : ReconcileError)
deriving Inhabited

namespace Outcome

/-- The delay before the next turn, in seconds. -/
def requeueAfter (t : Timing) : Outcome → Nat
  | reconciled result => result.requeueAfter
  | missing | rejected | skipped => t.resync
  | failed _ => t.error

/-- The turn found nothing left to do. -/
def isConverged : Outcome → Bool
  | reconciled result => result.converged
  | _ => false

end Outcome

/-- What the loop remembers between turns. -/
structure LoopState where
  /-- The last specification that was rejected. -/
  rejected : Option Spec
  /-- The loop was stopped, which is for good. -/
  stopped : Bool
deriving Inhabited

def LoopState.fresh : LoopState :=
  ⟨none, false⟩

/-- An operator at work: its settings, its source, its loop and the cluster. -/
structure Operator where
  settings : Settings
  source : Source
  loop : LoopState
  cluster : Cluster
deriving Inhabited

namespace Operator

/-- An operator on a cluster.  There has to be one. -/
def start (settings : Settings) (cluster : Option Cluster) : Except ReconcileError Operator :=
  match cluster with
  | some c => .ok ⟨settings, .empty, .fresh, c⟩
  | none => .error (.invalidConfig .clusterRequired)

/-- A pass over a pipeline, outside the loop. -/
def pass (o : Operator) (p : Pipeline) : Except ReconcileError PassResult × Operator :=
  let (result, cluster) := o.cluster.reconcile o.settings p
  (result, { o with cluster := cluster })

def stop (o : Operator) : Operator :=
  { o with loop := { o.loop with stopped := true } }

/-- A turn of the loop with a pipeline that was fetched. -/
def turn (o : Operator) (p : Pipeline) : Outcome × Operator :=
  if o.loop.rejected = some p.spec then (.skipped, o)
  else match o.pass p with
    | (.ok result, o) => (.reconciled result, { o with loop := { o.loop with rejected := none } })
    | (.error (.invalidSpec _), o) =>
      (.rejected, { o with loop := { o.loop with rejected := some p.spec } })
    | (.error err, o) => (.failed err, o)

def once (o : Operator) : Outcome × Operator :=
  let (fetched, source) := o.source.fetch
  let o := { o with source := source }
  match fetched with
  | .error err => (.failed err, o)
  | .ok none => (.missing, o)
  | .ok (some p) => o.turn p

/-! ## Running on a clock -/

/-- What happens around a run: changes of the source before a fetch, counted from zero, the moment at
which the loop is stopped from outside, in milliseconds, and the fetch during which it is stopped. -/
structure Surroundings where
  beforeFetch : Nat → Source → Source
  stopAt : Nat
  lastFetch : Nat

/-- Turns of the loop from a moment on: the moments of the fetches, and the operator once its loop is
stopped.  A turn takes no time; it is completed even if the loop is stopped meanwhile, and a wait ends
when the loop is stopped.  The number of fetches still to come bounds the turns. -/
def turns (w : Surroundings) : Nat → Nat → Operator → List Nat × Operator
  | 0, _, o => ([], o.stop)
  | left + 1, now, o =>
    if o.loop.stopped then ([], o)
    else
      let o := { o with source := w.beforeFetch (w.lastFetch - left) o.source }
      let (outcome, o) := o.once
      let wake := now + 1000 * outcome.requeueAfter o.settings.timing
      if left = 0 ∨ w.stopAt ≤ wake then ([now], o.stop)
      else
        let (later, o) := turns w left wake o
        (now :: later, o)

/-- Runs the loop until it is stopped: the moments of the fetches since the start, in milliseconds. -/
def run (w : Surroundings) (o : Operator) : List Nat × Operator :=
  turns w (w.lastFetch + 1) 0 o

end Operator

end LogOperator
