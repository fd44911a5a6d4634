import LogOperator.Component.Aggregator
import LogOperator.Component.Dashboard
import LogOperator.Proofs.Cluster.Calls

/-!
# LogOperator.Proofs.Component.Pods

What the pods of a workload are given: their specification (`Resource.pod?`) and the environment of
their containers (`Resource.environment`).  Two workloads are told in their environment where the
search engine is, each in variables of its own (`Endpoint.variables`):

* `Aggregator.addresses_deployment`, `Dashboard.addresses_deployment` — these variables have the
  values of the endpoint that the workload was built for, and no others.
-/

namespace LogOperator

namespace Resource

/-- The specification of a workload's pods. -/
def pod? (r : Resource) : Option PodSpec :=
  match r.content with
  | .daemonSet spec _ | .deployment spec _ => spec.bind (·.template.spec)
  | _ => none

/-- The environment of the containers of a workload's pods. -/
def environment (r : Resource) : List EnvVar :=
  (r.pod?.map fun pod => pod.containers.flatMap (·.env.getD [])).getD []

/-- A write leaves the pod of a workload as it was. -/
@[simp] theorem pod?_stamp (n : Nat) (r : Resource) : (r.stamp n).pod? = r.pod? := by
  obtain ⟨m, content⟩ := r
  cases content with
  | service spec rest => cases spec <;> rfl
  | _ => rfl

@[simp] theorem environment_stamp (n : Nat) (r : Resource) :
    (r.stamp n).environment = r.environment := by
  rw [environment, pod?_stamp, environment]

end Resource

open Component

/-- The variables that tell the workload of a level where the search engine is. -/
def Endpoint.variables (e : Endpoint) : Level → List EnvVar
  | .aggregator =>
    [.of LogOperator.Aggregator.hostVariable e.host,
     .of LogOperator.Aggregator.portVariable e.portText,
     .of LogOperator.Aggregator.schemeVariable e.scheme.name]
  | .dashboard => [.of "ELASTICSEARCH_URL" e.url, .of "ELASTICSEARCH_HOSTS" e.url]
  | _ => []

/-- The environment of a workload has these variables with the values of the endpoint, and with no
other ones. -/
def Resource.Addresses (r : Resource) (l : Level) (e : Endpoint) : Prop :=
  (r.environment.filter fun x => (e.variables l).any (·.name == x.name)) = e.variables l

/-- A stored workload addresses what the desired one does. -/
theorem Resource.Addresses.stamp {r : Resource} {l : Level} {e : Endpoint} (h : r.Addresses l e)
    (n : Nat) : (r.stamp n).Addresses l e := by
  rw [Addresses, environment_stamp]
  exact h

namespace Component

variable (v : ValidPipeline) (e : Endpoint) (images : Images)

/-- The aggregator is told the endpoint in three variables. -/
theorem Aggregator.addresses_deployment (files : TextMap) :
    (Aggregator.deployment v files e images).Addresses .aggregator e := by
  have henv : (Aggregator.deployment v files e images).environment
      = .of "FLUENTD_CONF" LogOperator.Aggregator.mainFile :: e.variables .aggregator := rfl
  rw [Resource.Addresses, henv]
  rfl

/-- The dashboard is told the endpoint as a URL. -/
theorem Dashboard.addresses_deployment :
    (Dashboard.deployment v e images).Addresses .dashboard e := by
  have henv : (Dashboard.deployment v e images).environment = e.variables .dashboard := rfl
  rw [Resource.Addresses, henv]
  rfl

end Component

end LogOperator
