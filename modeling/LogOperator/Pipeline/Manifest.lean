import LogOperator.Object.Metadata
import LogOperator.Pipeline.Spec

/-!
# LogOperator.Pipeline.Manifest

A pipeline as a cluster object of its own kind: metadata and a specification.
-/

namespace LogOperator

open Document

/-- A pipeline as the cluster holds it. -/
structure Pipeline where
  metadata : Metadata
  spec : Spec
deriving Inhabited

namespace Pipeline

def group : String := "logging.logpipe.io"

def version : String := "v1alpha1"

/-- The group and version that serve pipelines. -/
def apiVersion : String := group ++ "/" ++ version

/-- The kind of pipelines. -/
def kind : String := "LogPipeline"

/-- The name of the collection that holds pipelines. -/
def plural : String := "logpipelines"

/-- The name that a pipeline goes by: its own, else the start of one that the cluster completes. -/
def name (p : Pipeline) : String :=
  (p.metadata.name.or p.metadata.generateName).getD ""

/-- The reference by which a pipeline owns its components, once the cluster knows it. -/
def ownerRef? (p : Pipeline) : Option OwnerRef := do
  let name ← p.metadata.name
  let uid ← p.metadata.uid
  return ⟨apiVersion, kind, name, uid, some true, none⟩

def read? {α : Type} [Document α] (v : α) : Option Pipeline := do
  let ms ← record? ["metadata", "spec"] v
  return {
    metadata := ← required Metadata.read? "metadata" ms
    spec := ← required Spec.read? "spec" ms }

def write (p : Pipeline) : Json :=
  .object
    [("apiVersion", .text apiVersion), ("kind", .text kind), ("metadata", p.metadata.write),
     ("spec", p.spec.write)]

end Pipeline

end LogOperator
