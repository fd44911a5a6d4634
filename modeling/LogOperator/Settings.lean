import LogOperator.Document

/-!
# LogOperator.Settings

The settings of the operator: how long it waits between passes, and the images of the components.
Every setting has a default.
-/

namespace LogOperator

open Document

variable {α : Type} [Document α]

/-- Delays between passes, in seconds. -/
structure Timing where
  /-- Before a converged pipeline is checked again. -/
  resync : Nat
  /-- After a pass that changed something. -/
  change : Nat
  /-- After a failure that may pass. -/
  error : Nat
deriving DecidableEq, Inhabited

/-- Container images.  Those of the search engine and the dashboard are repositories, whose tag is the
version that a pipeline asks for. -/
structure Images where
  collector : String
  aggregator : String
  searchEngine : String
  dashboard : String
deriving DecidableEq, Inhabited

/-- The settings of the operator. -/
structure Settings where
  timing : Timing
  images : Images
deriving DecidableEq, Inhabited

namespace Timing

def standard : Timing :=
  ⟨30, 5, 10⟩

/-- A number of seconds, of 64 bits. -/
def seconds? (v : α) : Option Nat :=
  natTo? 18446744073709551615 v

def read? (v : α) : Option Timing := do
  let ms ← record? ["resync_interval", "change_requeue", "error_requeue"] v
  return {
    resync := ← defaulted seconds? standard.resync "resync_interval" ms
    change := ← defaulted seconds? standard.change "change_requeue" ms
    error := ← defaulted seconds? standard.error "error_requeue" ms }

def write (t : Timing) : Json :=
  .object
    [("resync_interval", .int t.resync), ("change_requeue", .int t.change),
     ("error_requeue", .int t.error)]

end Timing

namespace Images

def standard : Images where
  collector := "fluent/fluent-bit:1.9"
  aggregator := "fluent/fluentd-kubernetes-daemonset:v1.16-debian-elasticsearch7-1"
  searchEngine := "docker.elastic.co/elasticsearch/elasticsearch-oss"
  dashboard := "docker.elastic.co/kibana/kibana-oss"

def searchEngineAt (i : Images) (version : String) : String :=
  i.searchEngine ++ ":" ++ version

def dashboardAt (i : Images) (version : String) : String :=
  i.dashboard ++ ":" ++ version

def read? (v : α) : Option Images := do
  let ms ← record? ["collector", "aggregator", "search_engine", "dashboard"] v
  return {
    collector := ← defaulted text? standard.collector "collector" ms
    aggregator := ← defaulted text? standard.aggregator "aggregator" ms
    searchEngine := ← defaulted text? standard.searchEngine "search_engine" ms
    dashboard := ← defaulted text? standard.dashboard "dashboard" ms }

def write (i : Images) : Json :=
  .object
    [("collector", .text i.collector), ("aggregator", .text i.aggregator),
     ("search_engine", .text i.searchEngine), ("dashboard", .text i.dashboard)]

end Images

namespace Settings

def standard : Settings :=
  ⟨.standard, .standard⟩

def read? (v : α) : Option Settings := do
  let ms ← record? ["reconcile", "images"] v
  return {
    timing := ← defaulted Timing.read? .standard "reconcile" ms
    images := ← defaulted Images.read? .standard "images" ms }

def write (s : Settings) : Json :=
  .object [("reconcile", s.timing.write), ("images", s.images.write)]

end Settings

end LogOperator
