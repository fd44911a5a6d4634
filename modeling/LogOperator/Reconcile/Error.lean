import LogOperator.Object.Id
import LogOperator.Pipeline.Violation

/-!
# LogOperator.Reconcile.Error

Why a pass or a call on the cluster fails.  `isRetryable` tells whether the next pass can succeed while
the pipeline and the settings stay as they are.
-/

namespace LogOperator

/-- The calls on a cluster. -/
inductive Operation where
  | get
  | create
  | update
  | delete
deriving DecidableEq, Inhabited

def Operation.name : Operation → String
  | get => "get"
  | create => "create"
  | update => "update"
  | delete => "delete"

/-- Why a call on a cluster fails. -/
inductive Fault where
  /-- The failure was asked for. -/
  | injected
  | alreadyExists
  | notFound
  /-- What the cluster said. -/
  | told (reason : String)
deriving DecidableEq, Inhabited

def Fault.message : Fault → String
  | injected => "injected failure"
  | alreadyExists => "already exists"
  | notFound => "not found"
  | told reason => reason

/-- Why the search engine's endpoint is not known. -/
inductive EndpointFault where
  | serviceMissing (id : Id)
  | addressMissing (id : Id)
  | told (reason : String)
deriving DecidableEq, Inhabited

def EndpointFault.message : EndpointFault → String
  | serviceMissing id => id.display ++ " not found"
  | addressMissing id => id.display ++ " has no cluster address yet"
  | told reason => reason

/-- Why the operator's setup is refused. -/
inductive SetupFault where
  | clusterRequired
  | told (reason : String)
deriving DecidableEq, Inhabited

def SetupFault.message : SetupFault → String
  | clusterRequired => "cluster store is required"
  | told reason => reason

/-- Why a pass fails. -/
inductive ReconcileError where
  /-- The pipeline is ill-formed. -/
  | invalidSpec (violations : List Violation)
  /-- A call on the cluster failed. -/
  | store (operation : Operation) (id : Id) (fault : Fault)
  /-- The search engine's endpoint is not known yet. -/
  | endpointUnavailable (fault : EndpointFault)
  /-- The pipeline could not be read. -/
  | pipelineUnavailable (reason : String)
  /-- The operator was set up wrongly. -/
  | invalidConfig (fault : SetupFault)
deriving DecidableEq, Inhabited

namespace ReconcileError

def message : ReconcileError → String
  | invalidSpec vs => "invalid specification:\n" ++ Violation.messages vs
  | store op id fault => op.name ++ " " ++ id.display ++ " failed: " ++ fault.message
  | endpointUnavailable fault => "search engine endpoint unavailable: " ++ fault.message
  | pipelineUnavailable reason => "pipeline could not be fetched: " ++ reason
  | invalidConfig fault => "invalid configuration: " ++ fault.message

/-- The next pass can succeed without a change of the pipeline or the settings. -/
def isRetryable : ReconcileError → Bool
  | invalidSpec _ | invalidConfig _ => false
  | _ => true

end ReconcileError

end LogOperator
