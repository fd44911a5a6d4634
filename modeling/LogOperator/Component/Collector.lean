import LogOperator.Component.Blueprint
import LogOperator.Component.Identity
import LogOperator.Config.Dialect
import LogOperator.Settings

/-!
# LogOperator.Component.Collector

The collector: its configuration, and a workload that runs on every node, reads the logs of the node's
pods and runs as the pipeline's account.
-/

namespace LogOperator.Component.Collector

def name : String := "fluent-bit"

/-- The name of the ConfigMap and of the volume that holds it. -/
def configName : String := "fluent-bit-config"

/-- The volume of the node's logs. -/
def logVolume : String := "varlog"

/-- The volume of the files that the node's logs point to. -/
def containerVolume : String := "varlibcontainers"

/-- Where the node keeps the files that its logs point to. -/
def containerDir : String := "/var/lib/docker/containers"

def workloadId (ns : String) : Id :=
  .inNamespace .daemonSet name ns

/-- The inputs that the workload is built from: its files and the image. -/
def parts (files : TextMap) (images : Images) : List String :=
  (files.entries.flatMap fun f => [f.1, f.2]) ++ [images.collector]

def configMap (v : ValidPipeline) (files : TextMap) : Resource :=
  ⟨v.ownedMetadata configName, .configMap (some files) []⟩

/-- A mount of a volume at a path. -/
def mount (volume path : String) (readOnly : Option Bool) : VolumeMount :=
  ⟨volume, path, readOnly, none, []⟩

/-- Collectors run on the nodes that control the cluster, too. -/
def tolerations : Json :=
  .list [.object
    [("effect", .text "NoSchedule"), ("key", .text "node-role.kubernetes.io/master"),
     ("operator", .text "Exists")]]

def pod (images : Images) : PodSpec where
  serviceAccountName := some Identity.account
  containers := [{
    name := name
    image := some images.collector
    ports := some [.of LogOperator.Collector.httpPort]
    env := none
    mounts := some
      [mount logVolume "/var/log" none,
       mount configName "/fluent-bit/etc/" none,
       mount containerVolume containerDir (some true)]
    rest := [] }]
  volumes := some
    [.ofHostPath logVolume "/var/log",
     .ofConfigMap configName configName,
     .ofHostPath containerVolume containerDir]
  rest := [("tolerations", tolerations)]

def daemonSet (v : ValidPipeline) (files : TextMap) (images : Images) : Resource :=
  ⟨v.workloadMetadata name (parts files images),
    .daemonSet (some (.of none name (pod images))) []⟩

def entries (v : ValidPipeline) (table : RoutingTable) (images : Images) : List Entry :=
  let files := table.collectorFiles
  [.present (configMap v files) (some (workloadId v.ns)),
   .present (daemonSet v files images) none]

end LogOperator.Component.Collector
