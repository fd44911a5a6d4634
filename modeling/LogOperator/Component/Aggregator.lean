import LogOperator.Component.Blueprint
import LogOperator.Config.Dialect
import LogOperator.Desired.State
import LogOperator.Settings

/-!
# LogOperator.Component.Aggregator

The aggregator: the Service that collectors forward to, the configuration, and the workload.  The endpoint
of the search engine reaches the workload through its environment, so a new endpoint is a new
fingerprint and leaves the configuration as it is.
-/

namespace LogOperator.Component.Aggregator

open LogOperator.Aggregator (mainFile forwardPort hostVariable portVariable schemeVariable)

/-- The name of the Service and the workload. -/
def name : String := "fluentd"

/-- The name of the ConfigMap. -/
def configName : String := "fluentd-config"

def configVolume : String := "config-volume"

def workloadId (ns : String) : Id :=
  .inNamespace .deployment name ns

/-- The inputs that the workload is built from: its files, the endpoint and the image. -/
def parts (files : TextMap) (endpoint : Endpoint) (images : Images) : List String :=
  (files.entries.flatMap fun f => [f.1, f.2]) ++ [endpoint.url, images.aggregator]

def configMap (v : ValidPipeline) (files : TextMap) : Resource :=
  ⟨v.ownedMetadata configName, .configMap (some files) []⟩

def pod (endpoint : Endpoint) (images : Images) : PodSpec :=
  { PodSpec.of {
      name := name
      image := some images.aggregator
      ports := some [.of forwardPort]
      env := some
        [.of "FLUENTD_CONF" mainFile,
         .of hostVariable endpoint.host,
         .of portVariable endpoint.portText,
         .of schemeVariable endpoint.scheme.name]
      mounts := some
        [{ name := configVolume
           mountPath := "/fluentd/etc/" ++ mainFile
           readOnly := none
           subPath := some mainFile
           rest := [] }]
      rest := [] } with
    volumes := some [.ofConfigMap configVolume configName] }

def deployment (v : ValidPipeline) (files : TextMap) (endpoint : Endpoint) (images : Images) :
    Resource :=
  ⟨v.workloadMetadata name (parts files endpoint images),
    .deployment (some (.of (some 1) name (pod endpoint images))) []⟩

def entries (v : ValidPipeline) (table : RoutingTable) (endpoint : Endpoint) (images : Images) :
    List Entry :=
  let files := table.aggregatorFiles
  [.present (v.service name forwardPort none) none,
   .present (configMap v files) (some (workloadId v.ns)),
   .present (deployment v files endpoint images) none]

end LogOperator.Component.Aggregator
