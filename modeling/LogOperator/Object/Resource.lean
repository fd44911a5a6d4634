import LogOperator.Object.Id
import LogOperator.Object.Pod

/-!
# LogOperator.Object.Resource

Cluster objects of the kinds a pipeline is made of: metadata and a content of the object's kind.

* `Resource.id`, `Resource.fingerprint?`, `Resource.isManaged`: what the operator recognises an object
  by.
* `Resource.address?`: where a Service is reached, once the cluster gave it an address.
* `Resource.read?`, `Resource.write`: the form of an object in manifests and answers of the cluster.
-/

namespace LogOperator

open Document

variable {α : Type} [Document α]

/-! ## Types -/

/-- A whole number or a text. -/
inductive IntOrText where
  | int (n : Int)
  | text (s : String)
deriving DecidableEq, Inhabited

/-- A rule of access to resources. -/
structure PolicyRule where
  apiGroups : Option (List String)
  resources : Option (List String)
  verbs : List String
  rest : List (String × Json)
deriving Inhabited

/-- The role that a binding grants. -/
structure RoleRef where
  apiGroup : String
  kind : String
  name : String
deriving DecidableEq, Inhabited

/-- Whom a binding grants its role to. -/
structure Subject where
  apiGroup : Option String
  kind : String
  name : String
  ns : Option String
deriving DecidableEq, Inhabited

/-- The specification of a workload. -/
structure WorkloadSpec where
  /-- How many pods run; a DaemonSet has no such number. -/
  replicas : Option Int
  selector : Selector
  template : PodTemplate
  rest : List (String × Json)
deriving Inhabited

/-- A port of a Service. -/
structure ServicePort where
  name : Option String
  port : Int
  targetPort : Option IntOrText
  rest : List (String × Json)
deriving Inhabited

/-- The specification of a Service. -/
structure ServiceSpec where
  /-- The address inside the cluster, assigned on the first write. -/
  clusterIP : Option String
  ports : Option (List ServicePort)
  selector : Option TextMap
  type : Option String
  rest : List (String × Json)
deriving Inhabited

/-- What an object of each kind holds besides its metadata. -/
inductive Content where
  | serviceAccount (rest : List (String × Json))
  | clusterRole (rules : Option (List PolicyRule)) (rest : List (String × Json))
  | clusterRoleBinding (role : RoleRef) (subjects : Option (List Subject))
  | configMap (data : Option TextMap) (rest : List (String × Json))
  | daemonSet (spec : Option WorkloadSpec) (rest : List (String × Json))
  | deployment (spec : Option WorkloadSpec) (rest : List (String × Json))
  | service (spec : Option ServiceSpec) (rest : List (String × Json))
deriving Inhabited

/-- A cluster object. -/
structure Resource where
  metadata : Metadata
  content : Content
deriving Inhabited

def Content.kind : Content → Kind
  | serviceAccount .. => .serviceAccount
  | clusterRole .. => .clusterRole
  | clusterRoleBinding .. => .clusterRoleBinding
  | configMap .. => .configMap
  | daemonSet .. => .daemonSet
  | deployment .. => .deployment
  | service .. => .service

namespace Resource

/-! ## What an object is recognised by -/

/-- The label that everything the operator creates carries. -/
def managedByLabel : String := "app.kubernetes.io/managed-by"

def managedBy : String := "logpipe"

/-- The annotation that holds the fingerprint of the inputs a workload was built from. -/
def fingerprintAnnotation : String := "logpipe.io/fingerprint"

def kind (r : Resource) : Kind :=
  r.content.kind

/-- The identity of an object; one without a name has the empty name. -/
def id (r : Resource) : Id :=
  ⟨r.kind, r.metadata.name.getD "", r.metadata.ns⟩

/-- The fingerprint of the inputs a workload was built from. -/
def fingerprint? (r : Resource) : Option String :=
  r.metadata.annotation? fingerprintAnnotation

/-- The object carries the label of this operator. -/
def isManaged (r : Resource) : Bool :=
  r.metadata.label? managedByLabel == some managedBy

/-- An address that traffic can be sent to. -/
def isUsableAddress (ip : String) : Bool :=
  ip != "" && ip != "None"

/-- The address and first port of a Service, once the cluster assigned an address. -/
def address? (r : Resource) : Option (String × UInt16) :=
  match r.content with
  | .service (some spec) _ => do
    let host ← spec.clusterIP.filter isUsableAddress
    let ports ← spec.ports
    let first ← ports.head?
    if 0 ≤ first.port && first.port ≤ 65535 then some (host, first.port.toNat.toUInt16) else none
  | _ => none

end Resource

/-! ## Reading and writing -/

def IntOrText.read? (v : α) : Option IntOrText :=
  ((Shape.int32? v).map .int).or ((text? v).map .text)

def IntOrText.write : IntOrText → Json
  | .int n => .int n
  | .text s => .text s

def PolicyRule.read? (v : α) : Option PolicyRule := do
  let ms ← members? v
  return {
    apiGroups := ← optional (listOf? text?) "apiGroups" ms
    resources := ← optional (listOf? text?) "resources" ms
    verbs := ← optionalD (listOf? text?) [] "verbs" ms
    rest := ← Shape.readMembers? Shape.policyRuleRest ms }

def PolicyRule.write (r : PolicyRule) : Json :=
  .object (Json.present
    [("apiGroups", r.apiGroups.map .texts),
     ("resources", r.resources.map .texts),
     ("verbs", some (.texts r.verbs))] ++ r.rest)

def RoleRef.read? (v : α) : Option RoleRef := do
  let ms ← members? v
  return {
    apiGroup := ← optionalD text? "" "apiGroup" ms
    kind := ← optionalD text? "" "kind" ms
    name := ← optionalD text? "" "name" ms }

def RoleRef.write (r : RoleRef) : Json :=
  .object [("apiGroup", .text r.apiGroup), ("kind", .text r.kind), ("name", .text r.name)]

def Subject.read? (v : α) : Option Subject := do
  let ms ← members? v
  return {
    apiGroup := ← optional text? "apiGroup" ms
    kind := ← optionalD text? "" "kind" ms
    name := ← optionalD text? "" "name" ms
    ns := ← optional text? "namespace" ms }

def Subject.write (s : Subject) : Json :=
  .object (Json.present
    [("apiGroup", s.apiGroup.map .text), ("kind", some (.text s.kind)),
     ("name", some (.text s.name)), ("namespace", s.ns.map .text)])

/-- The workload specification of a document, with its other members of the given shapes.  Only a
Deployment counts replicas. -/
def WorkloadSpec.read? (counted : Bool) (shapes : List (String × Bool × Shape)) (v : α) :
    Option WorkloadSpec := do
  let ms ← members? v
  return {
    replicas := ← if counted then optional Shape.int32? "replicas" ms else some none
    selector := ← optionalD Selector.read? .empty "selector" ms
    template := ← optionalD PodTemplate.read? .empty "template" ms
    rest := ← Shape.readMembers? shapes ms }

def WorkloadSpec.write (s : WorkloadSpec) : Json :=
  .object (Json.present
    [("replicas", s.replicas.map .int),
     ("selector", some s.selector.write),
     ("template", some s.template.write)] ++ s.rest)

def ServicePort.read? (v : α) : Option ServicePort := do
  let ms ← members? v
  return {
    name := ← optional text? "name" ms
    port := ← optionalD Shape.int32? 0 "port" ms
    targetPort := ← optional IntOrText.read? "targetPort" ms
    rest := ← Shape.readMembers? Shape.servicePortRest ms }

def ServicePort.write (p : ServicePort) : Json :=
  .object (Json.present
    [("name", p.name.map .text), ("port", some (.int p.port)),
     ("targetPort", p.targetPort.map IntOrText.write)] ++ p.rest)

def ServiceSpec.read? (v : α) : Option ServiceSpec := do
  let ms ← members? v
  return {
    clusterIP := ← optional text? "clusterIP" ms
    ports := ← optional (listOf? ServicePort.read?) "ports" ms
    selector := ← optional textMap? "selector" ms
    type := ← optional text? "type" ms
    rest := ← Shape.readMembers? Shape.serviceSpecRest ms }

def ServiceSpec.write (s : ServiceSpec) : Json :=
  .object (Json.present
    [("clusterIP", s.clusterIP.map .text),
     ("ports", s.ports.map fun ps => .list (ps.map ServicePort.write)),
     ("selector", s.selector.map .textMap),
     ("type", s.type.map .text)] ++ s.rest)

namespace Content

/-- The content of an object of the given kind, from the members of a document. -/
def read? (kind : Kind) (ms : List (String × α)) : Option Content :=
  match kind with
  | .serviceAccount => return .serviceAccount (← Shape.readMembers? Shape.serviceAccountRest ms)
  | .clusterRole =>
    return .clusterRole (← optional (listOf? PolicyRule.read?) "rules" ms)
      (← Shape.readMembers? Shape.clusterRoleRest ms)
  | .clusterRoleBinding =>
    return .clusterRoleBinding (← optionalD RoleRef.read? ⟨"", "", ""⟩ "roleRef" ms)
      (← optional (listOf? Subject.read?) "subjects" ms)
  | .configMap =>
    return .configMap (← optional textMap? "data" ms)
      (← Shape.readMembers? Shape.configMapRest ms)
  | .daemonSet =>
    return .daemonSet
      (← optional (WorkloadSpec.read? false Shape.daemonSetSpecRest) "spec" ms)
      (← Shape.readMembers? Shape.daemonSetRest ms)
  | .deployment =>
    return .deployment
      (← optional (WorkloadSpec.read? true Shape.deploymentSpecRest) "spec" ms)
      (← Shape.readMembers? Shape.deploymentRest ms)
  | .service =>
    return .service (← optional ServiceSpec.read? "spec" ms)
      (← Shape.readMembers? Shape.serviceRest ms)

/-- The members that a content is written as. -/
def write : Content → List (String × Json)
  | serviceAccount rest => rest
  | clusterRole rules rest =>
    Json.present [("rules", rules.map fun rs => .list (rs.map PolicyRule.write))] ++ rest
  | clusterRoleBinding role subjects =>
    Json.present
      [("roleRef", some role.write),
       ("subjects", subjects.map fun ss => .list (ss.map Subject.write))]
  | configMap data rest => Json.present [("data", data.map .textMap)] ++ rest
  | daemonSet spec rest | deployment spec rest =>
    Json.present [("spec", spec.map WorkloadSpec.write)] ++ rest
  | service spec rest => Json.present [("spec", spec.map ServiceSpec.write)] ++ rest

end Content

namespace Resource

/-- Every member of the name is the given text. -/
def agrees (name expected : String) (ms : List (String × α)) : Bool :=
  (ms.filter (·.1 == name)).all fun m => text? m.2 == some expected

/-- The object of the given kind in a document.  A document may leave out its kind and version but
may not state others. -/
def read? (kind : Kind) (v : α) : Option Resource := do
  let ms ← members? v
  guard (agrees "apiVersion" kind.apiVersion ms && agrees "kind" kind.name ms)
  return {
    metadata := ← optionalD Metadata.read? .empty "metadata" ms
    content := ← Content.read? kind ms }

/-- The object in a document that states its kind. -/
def readAny? (v : α) : Option Resource := do
  let ms ← members? v
  let stated ← optional text? "kind" ms
  let kind ← stated.bind Kind.ofName?
  read? kind v

/-- The written form of an object. -/
def write (r : Resource) : Json :=
  .object ([("apiVersion", .text r.kind.apiVersion), ("kind", .text r.kind.name),
    ("metadata", r.metadata.write)] ++ r.content.write)

end Resource

end LogOperator
