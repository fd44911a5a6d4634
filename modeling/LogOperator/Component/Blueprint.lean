import LogOperator.Component.Fingerprint
import LogOperator.Object.Resource
import LogOperator.Pipeline.Validation

/-!
# LogOperator.Component.Blueprint

What the objects of all components have in common: labels, owner and fingerprint in their metadata, pods
with a label of their own, and Services with a single port in front of them.
-/

namespace LogOperator

/-! ## Metadata -/

/-- The label that selects the pods of a component. -/
def appLabel : String := "app"

/-- The labels that select the pods of a component. -/
def appLabels (app : String) : TextMap :=
  Dict.empty.insert appLabel app

/-- The labels of everything the operator creates. -/
def managedLabels : TextMap :=
  Dict.empty.insert Resource.managedByLabel Resource.managedBy

namespace ValidPipeline

/-- Metadata of an object in the target namespace, owned by the pipeline. -/
def ownedMetadata (v : ValidPipeline) (name : String) : Metadata :=
  { Metadata.empty with
    name := some name
    ns := some v.ns
    labels := some managedLabels
    owners := v.owner.map ([·]) }

/-- Metadata of a workload that is built from the given inputs. -/
def workloadMetadata (v : ValidPipeline) (name : String) (parts : List String) : Metadata :=
  { v.ownedMetadata name with
    labels := some (managedLabels.insert appLabel name)
    annotations := some
      (Dict.empty.insert Resource.fingerprintAnnotation (Fingerprint.ofParts parts)) }

end ValidPipeline

/-- Metadata of a cluster-scoped object.  Such an object has no owner, because owner references do not
leave a namespace. -/
def clusterMetadata (name : String) : Metadata :=
  { Metadata.empty with name := some name, labels := some managedLabels }

/-! ## Pods -/

def EnvVar.of (name value : String) : EnvVar :=
  ⟨name, some value, []⟩

def ContainerPort.of (number : Nat) : ContainerPort :=
  ⟨number, []⟩

def Volume.ofConfigMap (name configMap : String) : Volume :=
  ⟨name, some ⟨configMap, []⟩, none, []⟩

def Volume.ofHostPath (name path : String) : Volume :=
  ⟨name, none, some ⟨path, []⟩, []⟩

/-- A pod of a single container. -/
def PodSpec.of (container : Container) : PodSpec :=
  ⟨none, [container], none, []⟩

def PodTemplate.of (app : String) (spec : PodSpec) : PodTemplate :=
  ⟨some { Metadata.empty with labels := some (appLabels app) }, some spec⟩

def WorkloadSpec.of (replicas : Option Int) (app : String) (spec : PodSpec) : WorkloadSpec :=
  ⟨replicas, ⟨some (appLabels app), []⟩, .of app spec, []⟩

/-! ## Services -/

/-- The Service in front of a component's pods, on a single port. -/
def ValidPipeline.service (v : ValidPipeline) (app : String) (port : Nat) (type : Option String) :
    Resource where
  metadata := v.ownedMetadata app
  content := .service (some {
    clusterIP := none
    ports := some [⟨some app, port, some (.int port), []⟩]
    selector := some (appLabels app)
    type := type
    rest := [] }) []

end LogOperator
