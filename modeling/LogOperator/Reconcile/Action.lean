import LogOperator.Desired.State

/-!
# LogOperator.Reconcile.Action

What is done about one entry of the desired state.  `drift` compares a desired object with the one that
the cluster holds, and looks only at the data of ConfigMaps and at the fingerprints of workloads, so
what the cluster fills in by itself is never a difference.  `ensure` turns the comparison into at most
one action.
-/

namespace LogOperator

/-! ## Drift -/

/-- How the object in the cluster differs from the desired one. -/
inductive Drift where
  | none
  /-- The data differs; the object is the one in the cluster with the desired data. -/
  | payload (updated : Resource)
  /-- The workload was built from other inputs. -/
  | stale
deriving Inhabited

/-- The difference between a desired object and the observed one of the same identity. -/
def Resource.drift (desired observed : Resource) : Drift :=
  match desired.content, observed.content with
  | .configMap data _, .configMap current rest =>
    if data = current then .none
    else .payload { observed with content := .configMap data rest }
  | .daemonSet .., .daemonSet .. | .deployment .., .deployment .. =>
    if desired.fingerprint? = observed.fingerprint? then .none else .stale
  | _, _ => .none

/-! ## Phases -/

/-- The phases of an object's life. -/
inductive Phase where
  | absent
  | creating
  | present
  | updating
  | deleting
deriving DecidableEq, Inhabited

/-- The phase that is reached once what is under way succeeds. -/
def Phase.settled : Phase → Phase
  | creating | updating | present => present
  | deleting | absent => absent

/-! ## Actions -/

/-- A change of the cluster. -/
inductive Action where
  /-- An object that is missing is created. -/
  | create (resource : Resource)
  /-- The data of a ConfigMap is replaced; then the workload that mounts it is deleted, so that its
  pods see the new data. -/
  | updatePayload (resource : Resource) (dependent : Option Id)
  /-- An object whose component is switched off is deleted. -/
  | delete (id : Id)
  /-- A workload that was built from other inputs is deleted; the next pass creates it. -/
  | recreate (id : Id)
deriving Inhabited

namespace Action

def target : Action → Id
  | create r | updatePayload r _ => r.id
  | delete id | recreate id => id

def before : Action → Phase
  | create _ => .absent
  | _ => .present

def via : Action → Phase
  | create _ => .creating
  | updatePayload .. => .updating
  | delete _ | recreate _ => .deleting

/-- The workload that is deleted besides. -/
def dependent? : Action → Option Id
  | updatePayload _ dependent => dependent
  | _ => none

/-- The object that is written. -/
def resource? : Action → Option Resource
  | create r | updatePayload r _ => some r
  | _ => none

def name : Action → String
  | create _ => "create"
  | updatePayload .. => "update"
  | delete _ => "delete"
  | recreate _ => "recreate"

/-- What an action does, in words. -/
def description (a : Action) : String :=
  match a.dependent? with
  | some dependent =>
    "update " ++ a.target.display ++ " and restart " ++ dependent.display
  | none => a.name ++ " " ++ a.target.display

end Action

/-- The action that an entry of the desired state calls for, given the object that the cluster holds.
An object that must not be there is deleted only if this operator created it. -/
def Entry.ensure (e : Entry) (observed : Option Resource) : Option Action :=
  match e, observed with
  | .present r _, none => some (.create r)
  | .present r dependent, some current =>
    match r.drift current with
    | .none => none
    | .payload updated => some (.updatePayload updated dependent)
    | .stale => some (.recreate r.id)
  | .absent id, some current => if current.isManaged then some (.delete id) else none
  | .absent _, none => none

end LogOperator
