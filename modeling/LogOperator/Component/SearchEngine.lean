import LogOperator.Component.Blueprint
import LogOperator.Desired.State
import LogOperator.Settings

/-!
# LogOperator.Component.SearchEngine

A search engine of a single node and the Service in front of it, when the operator provides it.  The
Service's address is the endpoint that the other components are given.
-/

namespace LogOperator.Component.SearchEngine

def name : String := "elasticsearch"

def port : Nat := 9200

/-- The Service that the endpoint is found from. -/
def serviceId (ns : String) : Id :=
  .inNamespace .service name ns

/-- The identities of the component in a namespace. -/
def ids (ns : String) : List Id :=
  [.inNamespace .deployment name ns, serviceId ns]

/-- The inputs that the workload is built from. -/
def parts (v : ValidPipeline) (images : Images) : List String :=
  [images.searchEngineAt v.spec.version]

def pod (v : ValidPipeline) (images : Images) : PodSpec :=
  .of {
    name := name
    image := some (images.searchEngineAt v.spec.version)
    ports := some [.of port]
    env := some [.of "discovery.type" "single-node"]
    mounts := none
    rest := [] }

def deployment (v : ValidPipeline) (images : Images) : Resource :=
  ⟨v.workloadMetadata name (parts v images),
    .deployment (some (.of (some 1) name (pod v images))) []⟩

def entries (v : ValidPipeline) (images : Images) : List Entry :=
  if v.managesSearchEngine then
    [.present (deployment v images) none, .present (v.service name port none) none]
  else (ids v.ns).map .absent

end LogOperator.Component.SearchEngine
