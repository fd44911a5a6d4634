import LogOperator.Component.Blueprint
import LogOperator.Desired.State
import LogOperator.Settings

/-!
# LogOperator.Component.Dashboard

The dashboard and the Service that makes it reachable from outside, when the pipeline asks for them.
-/

namespace LogOperator.Component.Dashboard

def name : String := "kibana"

def port : Nat := 5601

/-- The identities of the component in a namespace. -/
def ids (ns : String) : List Id :=
  [.inNamespace .deployment name ns, .inNamespace .service name ns]

/-- The inputs that the workload is built from: the endpoint and the image. -/
def parts (v : ValidPipeline) (endpoint : Endpoint) (images : Images) : List String :=
  [endpoint.url, images.dashboardAt v.spec.version]

def pod (v : ValidPipeline) (endpoint : Endpoint) (images : Images) : PodSpec :=
  .of {
    name := name
    image := some (images.dashboardAt v.spec.version)
    ports := some [.of port]
    env := some
      [.of "ELASTICSEARCH_URL" endpoint.url, .of "ELASTICSEARCH_HOSTS" endpoint.url]
    mounts := none
    rest := [] }

def deployment (v : ValidPipeline) (endpoint : Endpoint) (images : Images) : Resource :=
  ⟨v.workloadMetadata name (parts v endpoint images),
    .deployment (some (.of (some 1) name (pod v endpoint images))) []⟩

def entries (v : ValidPipeline) (endpoint : Endpoint) (images : Images) : List Entry :=
  if v.spec.dashboard then
    [.present (deployment v endpoint images) none,
     .present (v.service name port (some "LoadBalancer")) none]
  else (ids v.ns).map .absent

end LogOperator.Component.Dashboard
