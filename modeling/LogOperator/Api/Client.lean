import LogOperator.Api.Request
import LogOperator.Api.Response
import LogOperator.Object.Resource
import LogOperator.Reconcile.Error

/-!
# LogOperator.Api.Client

The calls on a cluster over its API.  A call sends one request and reads its response; a request that
cannot be built is not sent.  What answers requests is any server with a state of its own.

* `get`, `create`, `update`, `delete`: the calls on objects, with the failures of `Cluster`'s calls.
* `fetch`: reads a pipeline.
-/

namespace LogOperator.Api

/-- Why a call failed. -/
inductive Fault where
  /-- The request could not be built. -/
  | request (fault : RequestFault)
  /-- The request got no response. -/
  | connection (reason : String)
  | refused (refusal : Refusal)
  /-- The response is not what was asked for. -/
  | unreadable
deriving DecidableEq, Inhabited

def Fault.message : Fault → String
  | request fault => "Failed to build request: " ++ fault.message
  | connection reason => "ServiceError: " ++ reason
  | refused refusal => "ApiError: " ++ refusal.describe
  | unreadable => "Error deserializing response"

/-- What answers requests: from its state and a request, the response, or why there is none, and the
state after it. -/
abbrev Server (σ : Type) := σ → Request → Except String Response × σ

/-! ## One exchange -/

/-- The document that a response holds, if it does not refuse the request. -/
def Response.document (r : Response) : Except Fault Json :=
  if r.isRefusal then .error (.refused r.refusal)
  else
    match Json.parse? r.body with
    | some j => .ok j
    | none => .error .unreadable

/-- The value that a response holds. -/
def Response.value {β : Type} (read : Json → Option β) (r : Response) : Except Fault β := do
  match read (← r.document) with
  | some v => return v
  | none => throw .unreadable

/-- The value or, for an object that is not there, nothing. -/
def orAbsent {β : Type} : Except Fault β → Except Fault (Option β)
  | .ok v => .ok (some v)
  | .error (.refused refusal) =>
    if refusal.reason = "NotFound" then .ok none else .error (.refused refusal)
  | .error e => .error e

/-- A deletion's outcome; that there is nothing to delete is no failure. -/
def orGone : Except Fault Unit → Except Fault Unit
  | .ok () => .ok ()
  | .error (.refused refusal) => if refusal.code = 404 then .ok () else .error (.refused refusal)
  | .error e => .error e

def exchange {σ β : Type} (server : Server σ) (s : σ) (request : Except RequestFault Request)
    (read : Response → Except Fault β) : Except Fault β × σ :=
  match request with
  | .error fault => (.error (.request fault), s)
  | .ok request =>
    match server s request with
    | (.error reason, s) => (.error (.connection reason), s)
    | (.ok response, s) => (read response, s)

/-- The answer of a call as the operator sees it. -/
def blame {σ β : Type} (error : String → ReconcileError) (answer : Except Fault β × σ) :
    Except ReconcileError β × σ :=
  (answer.1.mapError fun fault => error fault.message, answer.2)

/-- The failure of a call on an object. -/
def storeError (op : Operation) (id : Id) (reason : String) : ReconcileError :=
  .store op id (.told reason)

/-! ## Calls -/

section

variable {σ : Type} (server : Server σ) (s : σ)

def get (id : Id) : Except ReconcileError (Option Resource) × σ :=
  blame (storeError .get id) <|
    exchange server s (Request.get (.ofId id) id.name) fun r =>
      orAbsent (r.value (Resource.read? id.kind))

def create (o : Resource) : Except ReconcileError Unit × σ :=
  blame (storeError .create o.id) <|
    exchange server s (Request.create (.ofId o.id) o.write) fun r =>
      (r.value (Resource.read? o.kind)).map fun _ => ()

def update (o : Resource) : Except ReconcileError Unit × σ :=
  blame (storeError .update o.id) <|
    exchange server s (Request.replace (.ofId o.id) o.id.name o.write) fun r =>
      (r.value (Resource.read? o.kind)).map fun _ => ()

/-- A response to a deletion shows the object or acknowledges the request. -/
def deleted? (kind : Kind) (j : Json) : Option Unit :=
  if (j.get? "kind").bind Document.text? = some "Status" then guard (isAcknowledgement j)
  else (Resource.read? kind j).map fun _ => ()

/-- Deletes an object.  That it is not there is no failure. -/
def delete (id : Id) : Except ReconcileError Unit × σ :=
  blame (storeError .delete id) <|
    exchange server s (Request.delete (.ofId id) id.name) fun r =>
      orGone (r.value (deleted? id.kind))

/-- The pipeline of a name in a namespace. -/
def fetch (ns name : String) : Except ReconcileError (Option Pipeline) × σ :=
  blame (fun reason => .pipelineUnavailable ("LogPipeline " ++ name ++ ": " ++ reason)) <|
    exchange server s (Request.get (.pipelines ns) name) fun r => orAbsent (r.value Pipeline.read?)

end

end LogOperator.Api
