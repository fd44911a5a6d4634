import LogOperator.Object.Catalog

/-!
# LogOperator.Object.Metadata

The metadata that every cluster object carries: what names it, labels it and owns it, and the version
that the cluster stamps on every write.
-/

namespace LogOperator

open Document

variable {α : Type} [Document α]

/-- A reference to the object that owns another one. -/
structure OwnerRef where
  apiVersion : String
  kind : String
  name : String
  uid : String
  controller : Option Bool
  blockOwnerDeletion : Option Bool
deriving DecidableEq, Inhabited

/-- The metadata of an object. -/
structure Metadata where
  name : Option String
  /-- The start of a name that the cluster completes. -/
  generateName : Option String
  ns : Option String
  uid : Option String
  /-- The version that the cluster gave the object on its last write. -/
  resourceVersion : Option String
  labels : Option TextMap
  annotations : Option TextMap
  owners : Option (List OwnerRef)
  /-- The other members, in the order of their shapes. -/
  rest : List (String × Json)

namespace OwnerRef

def read? (v : α) : Option OwnerRef := do
  let ms ← members? v
  return {
    apiVersion := ← optionalD text? "" "apiVersion" ms
    kind := ← optionalD text? "" "kind" ms
    name := ← optionalD text? "" "name" ms
    uid := ← optionalD text? "" "uid" ms
    controller := ← optional bool? "controller" ms
    blockOwnerDeletion := ← optional bool? "blockOwnerDeletion" ms }

def write (o : OwnerRef) : Json :=
  .object (Json.present
    [("apiVersion", some (.text o.apiVersion)),
     ("blockOwnerDeletion", o.blockOwnerDeletion.map .bool),
     ("controller", o.controller.map .bool),
     ("kind", some (.text o.kind)),
     ("name", some (.text o.name)),
     ("uid", some (.text o.uid))])

end OwnerRef

namespace Metadata

def empty : Metadata :=
  ⟨none, none, none, none, none, none, none, none, []⟩

instance : Inhabited Metadata := ⟨empty⟩

def read? (v : α) : Option Metadata := do
  let ms ← members? v
  return {
    name := ← optional text? "name" ms
    generateName := ← optional text? "generateName" ms
    ns := ← optional text? "namespace" ms
    uid := ← optional text? "uid" ms
    resourceVersion := ← optional text? "resourceVersion" ms
    labels := ← optional textMap? "labels" ms
    annotations := ← optional textMap? "annotations" ms
    owners := ← optional (listOf? OwnerRef.read?) "ownerReferences" ms
    rest := ← Shape.readMembers? Shape.metadataRest ms }

def write (m : Metadata) : Json :=
  .object (Json.present
    [("annotations", m.annotations.map .textMap),
     ("generateName", m.generateName.map .text),
     ("labels", m.labels.map .textMap),
     ("name", m.name.map .text),
     ("namespace", m.ns.map .text),
     ("ownerReferences", m.owners.map fun os => .list (os.map OwnerRef.write)),
     ("resourceVersion", m.resourceVersion.map .text),
     ("uid", m.uid.map .text)] ++ m.rest)

def label? (m : Metadata) (key : String) : Option String :=
  m.labels.bind (·.find? key)

def annotation? (m : Metadata) (key : String) : Option String :=
  m.annotations.bind (·.find? key)

end Metadata

end LogOperator
