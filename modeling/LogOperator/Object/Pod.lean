import LogOperator.Object.Metadata

/-!
# LogOperator.Object.Pod

Pod templates: the containers of a pod with their images, ports, environment and mounts, and the
volumes behind the mounts.  Each type has a `read?` that takes it from a document and a `write` that
gives its written form.
-/

namespace LogOperator

open Document

variable {α : Type} [Document α]

/-! ## Types -/

/-- An environment variable of a container. -/
structure EnvVar where
  name : String
  value : Option String
  rest : List (String × Json)
deriving Inhabited

/-- A port that a container listens on. -/
structure ContainerPort where
  number : Int
  rest : List (String × Json)
deriving Inhabited

/-- A volume seen inside a container. -/
structure VolumeMount where
  /-- The name of the volume. -/
  name : String
  mountPath : String
  readOnly : Option Bool
  /-- The file of the volume that is mounted, when it is not all of it. -/
  subPath : Option String
  rest : List (String × Json)
deriving Inhabited

/-- A container of a pod. -/
structure Container where
  name : String
  image : Option String
  ports : Option (List ContainerPort)
  env : Option (List EnvVar)
  mounts : Option (List VolumeMount)
  rest : List (String × Json)
deriving Inhabited

/-- A source of a volume that is known by one text: the name of a ConfigMap or a path of the node. -/
structure VolumeSource where
  target : String
  rest : List (String × Json)
deriving Inhabited

/-- A volume of a pod. -/
structure Volume where
  name : String
  configMap : Option VolumeSource
  hostPath : Option VolumeSource
  rest : List (String × Json)
deriving Inhabited

/-- What a pod is made of. -/
structure PodSpec where
  /-- The account that the pod runs as. -/
  serviceAccountName : Option String
  containers : List Container
  volumes : Option (List Volume)
  rest : List (String × Json)
deriving Inhabited

/-- What pods are made from. -/
structure PodTemplate where
  metadata : Option Metadata
  spec : Option PodSpec
deriving Inhabited

/-- A selection of objects by their labels. -/
structure Selector where
  matchLabels : Option TextMap
  rest : List (String × Json)
deriving Inhabited

/-! ## Reading and writing -/

def EnvVar.read? (v : α) : Option EnvVar := do
  let ms ← members? v
  return {
    name := ← optionalD text? "" "name" ms
    value := ← optional text? "value" ms
    rest := ← Shape.readMembers? Shape.envRest ms }

def EnvVar.write (e : EnvVar) : Json :=
  .object (Json.present [("name", some (.text e.name)), ("value", e.value.map .text)] ++ e.rest)

def ContainerPort.read? (v : α) : Option ContainerPort := do
  let ms ← members? v
  return {
    number := ← optionalD Shape.int32? 0 "containerPort" ms
    rest := ← Shape.readMembers? Shape.containerPortRest ms }

def ContainerPort.write (p : ContainerPort) : Json :=
  .object (("containerPort", .int p.number) :: p.rest)

def VolumeMount.read? (v : α) : Option VolumeMount := do
  let ms ← members? v
  return {
    name := ← optionalD text? "" "name" ms
    mountPath := ← optionalD text? "" "mountPath" ms
    readOnly := ← optional bool? "readOnly" ms
    subPath := ← optional text? "subPath" ms
    rest := ← Shape.readMembers? Shape.volumeMountRest ms }

def VolumeMount.write (m : VolumeMount) : Json :=
  .object (Json.present
    [("mountPath", some (.text m.mountPath)),
     ("name", some (.text m.name)),
     ("readOnly", m.readOnly.map .bool),
     ("subPath", m.subPath.map .text)] ++ m.rest)

def Container.read? (v : α) : Option Container := do
  let ms ← members? v
  return {
    name := ← optionalD text? "" "name" ms
    image := ← optional text? "image" ms
    ports := ← optional (listOf? ContainerPort.read?) "ports" ms
    env := ← optional (listOf? EnvVar.read?) "env" ms
    mounts := ← optional (listOf? VolumeMount.read?) "volumeMounts" ms
    rest := ← Shape.readMembers? Shape.containerRest ms }

def Container.write (c : Container) : Json :=
  .object (Json.present
    [("env", c.env.map fun es => .list (es.map EnvVar.write)),
     ("image", c.image.map .text),
     ("name", some (.text c.name)),
     ("ports", c.ports.map fun ps => .list (ps.map ContainerPort.write)),
     ("volumeMounts", c.mounts.map fun ms => .list (ms.map VolumeMount.write))] ++ c.rest)

/-- The source of a document, known by the given member. -/
def VolumeSource.read? (member : String) (shapes : List (String × Bool × Shape)) (v : α) :
    Option VolumeSource := do
  let ms ← members? v
  return {
    target := ← optionalD text? "" member ms
    rest := ← Shape.readMembers? shapes ms }

/-- The written form of a source that is known by the given member. -/
def VolumeSource.write (member : String) (s : VolumeSource) : Json :=
  .object ((member, .text s.target) :: s.rest)

def Volume.read? (v : α) : Option Volume := do
  let ms ← members? v
  return {
    name := ← optionalD text? "" "name" ms
    configMap := ← optional (VolumeSource.read? "name" Shape.configMapVolumeRest) "configMap" ms
    hostPath := ← optional (VolumeSource.read? "path" Shape.hostPathRest) "hostPath" ms
    rest := ← Shape.readMembers? Shape.volumeRest ms }

def Volume.write (v : Volume) : Json :=
  .object (Json.present
    [("configMap", v.configMap.map (·.write "name")),
     ("hostPath", v.hostPath.map (·.write "path")),
     ("name", some (.text v.name))] ++ v.rest)

def PodSpec.read? (v : α) : Option PodSpec := do
  let ms ← members? v
  return {
    serviceAccountName := ← optional text? "serviceAccountName" ms
    containers := ← optionalD (listOf? Container.read?) [] "containers" ms
    volumes := ← optional (listOf? Volume.read?) "volumes" ms
    rest := ← Shape.readMembers? Shape.podRest ms }

def PodSpec.write (p : PodSpec) : Json :=
  .object (Json.present
    [("containers", some (.list (p.containers.map Container.write))),
     ("serviceAccountName", p.serviceAccountName.map .text),
     ("volumes", p.volumes.map fun vs => .list (vs.map Volume.write))] ++ p.rest)

def PodTemplate.read? (v : α) : Option PodTemplate := do
  let ms ← members? v
  return {
    metadata := ← optional Metadata.read? "metadata" ms
    spec := ← optional PodSpec.read? "spec" ms }

def PodTemplate.write (t : PodTemplate) : Json :=
  .object (Json.present
    [("metadata", t.metadata.map Metadata.write), ("spec", t.spec.map PodSpec.write)])

def PodTemplate.empty : PodTemplate :=
  ⟨none, none⟩

def Selector.read? (v : α) : Option Selector := do
  let ms ← members? v
  return {
    matchLabels := ← optional textMap? "matchLabels" ms
    rest := ← Shape.readMembers? Shape.selectorRest ms }

def Selector.write (s : Selector) : Json :=
  .object (Json.present [("matchLabels", s.matchLabels.map .textMap)] ++ s.rest)

def Selector.empty : Selector :=
  ⟨none, []⟩

end LogOperator
