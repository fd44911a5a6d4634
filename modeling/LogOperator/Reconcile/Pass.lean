import LogOperator.Cluster.Store
import LogOperator.Desired.Build
import LogOperator.Reconcile.Action

/-!
# LogOperator.Reconcile.Pass

One pass over a pipeline: the pipeline is validated, the entries of its desired state are visited in order,
and the first one that calls for an action gets it.  A pass applies at most one action; the state is
reached over several passes, each of which reads the cluster anew.

* `Cluster.settle`: the first action that entries call for, applied.
* `Cluster.reconcile`: a pass.
-/

namespace LogOperator

/-- What a pass did. -/
structure PassResult where
  /-- The action that was applied. -/
  action : Option Action
  /-- The endpoint of the search engine, if the pass got as far as needing it. -/
  endpoint : Option Endpoint
  /-- The delay before the next pass, in seconds. -/
  requeueAfter : Nat
  /-- Nothing was left to do. -/
  converged : Bool
deriving Inhabited

namespace PassResult

/-- A pass that applied an action. -/
def changed (a : Action) (endpoint : Option Endpoint) (delay : Nat) : PassResult :=
  ⟨some a, endpoint, delay, false⟩

/-- A pass that found nothing to do. -/
def settled (endpoint : Endpoint) (delay : Nat) : PassResult :=
  ⟨none, some endpoint, delay, true⟩

end PassResult

/-- The levels of a desired state that are settled after the endpoint is known. -/
def DesiredState.remaining (s : DesiredState) : DesiredState :=
  s.filter fun l => !l.1.isFoundation

namespace Cluster

/-- Carries out an action.  When a dependent workload cannot be deleted, the update stays. -/
def apply (c : Cluster) : Action → Reply Unit
  | .create r => c.create r
  | .updatePayload r dependent =>
    match c.update r, dependent with
    | (.ok (), c), some id => c.delete id
    | reply, _ => reply
  | .delete id | .recreate id => c.delete id

/-- Visits entries in order and applies the first action that one of them calls for. -/
def settle (c : Cluster) : List Entry → Reply (Option Action)
  | [] => (.ok none, c)
  | e :: es =>
    match c.get e.id with
    | (.error err, c) => (.error err, c)
    | (.ok observed, c) =>
      match e.ensure observed with
      | none => c.settle es
      | some a =>
        match c.apply a with
        | (.error err, c) => (.error err, c)
        | (.ok (), c) => (.ok (some a), c)

/-- The endpoint of the search engine: the external one, or the address of the Service in front of the
one that is provided. -/
def resolveEndpoint (c : Cluster) (v : ValidPipeline) : Reply Endpoint :=
  match v.externalEndpoint? with
  | some e => (.ok e, c)
  | none =>
    let id := Component.SearchEngine.serviceId v.ns
    match c.get id with
    | (.error err, c) => (.error err, c)
    | (.ok none, c) => (.error (.endpointUnavailable (.serviceMissing id)), c)
    | (.ok (some service), c) =>
      match service.address? with
      | none => (.error (.endpointUnavailable (.addressMissing id)), c)
      | some (host, port) => (.ok ⟨.http, host, port⟩, c)

def reconcileValid (c : Cluster) (s : Settings) (v : ValidPipeline) : Reply PassResult :=
  match c.settle (DesiredState.foundation v s.images).entries with
  | (.error err, c) => (.error err, c)
  | (.ok (some a), c) => (.ok (.changed a none s.timing.change), c)
  | (.ok none, c) =>
    match c.resolveEndpoint v with
    | (.error err, c) => (.error err, c)
    | (.ok endpoint, c) =>
      match c.settle (DesiredState.build v endpoint s.images).remaining.entries with
      | (.error err, c) => (.error err, c)
      | (.ok (some a), c) => (.ok (.changed a (some endpoint) s.timing.change), c)
      | (.ok none, c) => (.ok (.settled endpoint s.timing.resync), c)

/-- A pass over a pipeline.  One that is ill-formed is rejected before the cluster is looked at. -/
def reconcile (c : Cluster) (s : Settings) (p : Pipeline) : Reply PassResult :=
  match p.validate with
  | .error violations => (.error (.invalidSpec violations), c)
  | .ok v => c.reconcileValid s v

end Cluster

end LogOperator
