import LogOperator.Object.Resource
import LogOperator.Reconcile.Error

/-!
# LogOperator.Cluster.Store

A cluster held in memory: objects by identity, the log of changes, failures that were asked for, and a
revision that counts writes.

* `Cluster.get`, `Cluster.create`, `Cluster.update`, `Cluster.delete`: the calls of the operator.  Each
  first uses up a pending failure of its operation and identity, if there is one.
* `Cluster.seed`, `Cluster.evict`, `Cluster.injectFailure`, `Cluster.clearLog`: changes from outside, which
  are neither logged nor counted.
-/

namespace LogOperator

/-- A change that a call made. -/
structure Mutation where
  operation : Operation
  id : Id
deriving DecidableEq, Inhabited

def Mutation.display (m : Mutation) : String :=
  m.operation.name ++ " " ++ m.id.display

/-- A cluster held in memory. -/
structure Cluster where
  objects : Dict Id Resource
  /-- The changes that calls made, in order. -/
  log : List Mutation
  /-- The failures that are still to come, in order. -/
  failures : List (Operation × Id)
  /-- The number of writes so far.  It has no bound here; a counter of 64 bits agrees with it up to
  `2 ^ 64` writes. -/
  revision : Nat
deriving Inhabited

/-- The address that a Service without one is given at a revision. -/
def assignedAddress (revision : Nat) : String :=
  "10.96." ++ Nat.repr (revision / 256) ++ "." ++ Nat.repr (revision % 256)

/-- A Service has an address; one without is given that of the revision. -/
def Content.assign (revision : Nat) : Content → Content
  | .service (some spec) rest =>
    .service (some { spec with clusterIP := some (spec.clusterIP.getD (assignedAddress revision)) })
      rest
  | content => content

/-- The object with the fields that the cluster assigns on a write. -/
def Resource.stamp (revision : Nat) (r : Resource) : Resource where
  metadata := { r.metadata with resourceVersion := some (Nat.repr revision) }
  content := r.content.assign revision

namespace Cluster

def empty : Cluster :=
  ⟨.empty, [], [], 0⟩

/-! ## Changes from outside -/

/-- The cluster with an object put under its identity. -/
def seed (c : Cluster) (r : Resource) : Cluster :=
  { c with objects := c.objects.insert r.id r }

/-- The cluster without the object of an identity. -/
def evict (c : Cluster) (id : Id) : Cluster :=
  { c with objects := c.objects.erase id }

/-- The cluster that will fail the next such call once. -/
def injectFailure (c : Cluster) (op : Operation) (id : Id) : Cluster :=
  { c with failures := c.failures ++ [(op, id)] }

def clearLog (c : Cluster) : Cluster :=
  { c with log := [] }

/-! ## Calls -/

/-- The answer of a call and the cluster after it. -/
abbrev Reply (α : Type) := Except ReconcileError α × Cluster

/-- A call that fails if a failure of it is pending, which is then used up, and otherwise answers as
given. -/
def unlessInjected {α : Type} (c : Cluster) (op : Operation) (id : Id) (reply : Reply α) :
    Reply α :=
  if (op, id) ∈ c.failures then
    (.error (.store op id .injected), { c with failures := c.failures.erase (op, id) })
  else reply

/-- The cluster after an object was written and the change logged. -/
def write (c : Cluster) (op : Operation) (r : Resource) : Cluster :=
  { c with
    objects := c.objects.insert r.id (r.stamp (c.revision + 1))
    log := c.log ++ [⟨op, r.id⟩]
    revision := c.revision + 1 }

def get (c : Cluster) (id : Id) : Reply (Option Resource) :=
  c.unlessInjected .get id (.ok (c.objects.find? id), c)

def create (c : Cluster) (r : Resource) : Reply Unit :=
  c.unlessInjected .create r.id <|
    if c.objects.contains r.id then (.error (.store .create r.id .alreadyExists), c)
    else (.ok (), c.write .create r)

def update (c : Cluster) (r : Resource) : Reply Unit :=
  c.unlessInjected .update r.id <|
    if c.objects.contains r.id then (.ok (), c.write .update r)
    else (.error (.store .update r.id .notFound), c)

/-- Deletes an object.  That it is not there is no failure, and no change. -/
def delete (c : Cluster) (id : Id) : Reply Unit :=
  c.unlessInjected .delete id <|
    if c.objects.contains id then
      (.ok (), { c with objects := c.objects.erase id, log := c.log ++ [⟨.delete, id⟩] })
    else (.ok (), c)

end Cluster

end LogOperator
