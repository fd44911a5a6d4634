import LogOperator.Document

/-!
# LogOperator.Pipeline.Spec

What a pipeline asks for: which pods' logs are collected, how they are parsed, where they are sent,
and which components the operator provides.

* `WatchRule.effectiveTag`: the tag that a rule routes under.
* `Spec.read?`, `Spec.write`: the form of a specification in manifests.  Every member but the names of
  parsers, the namespaces of rules and the types of outputs has a default, and a written
  specification has all members.
-/

namespace LogOperator

/-! ## Types -/

/-- A named regular expression. -/
structure LogParser where
  name : String
  pattern : String
deriving DecidableEq, Inhabited

/-- Where records can be sent. -/
inductive Sink where
  | searchEngine
  | stdout
deriving DecidableEq, Inhabited

/-- A destination of records. -/
structure Output where
  sink : Sink
  /-- The index that the search engine files records under. -/
  indexPattern : String
deriving DecidableEq, Inhabited

/-- Logs to collect: those of a namespace, or of some deployments in it. -/
structure WatchRule where
  ns : String
  /-- The tag that is asked for; it may be empty. -/
  tag : String
  deployments : List String
  /-- Names of parsers, applied in order. -/
  parsers : List String
  outputs : List Output
deriving DecidableEq, Inhabited

/-- Where the search engine is. -/
structure SearchEngine where
  /-- The operator provides the search engine itself. -/
  required : Bool
  /-- The host of an external search engine. -/
  host : String
  /-- The port of an external search engine. -/
  port : Option UInt16
  /-- An external search engine is reached over https. -/
  https : Bool
deriving DecidableEq, Inhabited

/-- The specification of a pipeline. -/
structure Spec where
  /-- The namespace that the components are put into; it may be empty. -/
  ns : String
  /-- The file that the collector logs to; it may be empty. -/
  collectorLogfile : String
  /-- Records are enriched with the metadata of their pod. -/
  includeMetadata : Bool
  /-- The version of the search engine and the dashboard. -/
  version : String
  parsers : List LogParser
  watch : List WatchRule
  searchEngine : SearchEngine
  /-- The dashboard is provided. -/
  dashboard : Bool
deriving DecidableEq, Inhabited

/-- The tag that a rule routes under: its namespace unless it asks for another one. -/
def WatchRule.effectiveTag (r : WatchRule) : String :=
  if r.tag = "" then r.ns else r.tag

/-! ## Reading and writing -/

open Document

variable {α : Type} [Document α]

/-- The name under which a sink is written, which is also its plugin in the aggregator. -/
def Sink.name : Sink → String
  | searchEngine => "elasticsearch"
  | stdout => "stdout"

/-- The sink of a name; the search engine has two. -/
def Sink.ofName? (s : String) : Option Sink :=
  if s = "elasticsearch" ∨ s = "search-engine" then some .searchEngine
  else if s = "stdout" then some .stdout
  else none

namespace LogParser

def read? (v : α) : Option LogParser := do
  let ms ← record? ["name", "pattern"] v
  return {
    name := ← required text? "name" ms
    pattern := ← defaulted text? "" "pattern" ms }

def write (p : LogParser) : Json :=
  .object [("name", .text p.name), ("pattern", .text p.pattern)]

end LogParser

namespace Output

def read? (v : α) : Option Output := do
  let ms ← record? ["type", "index-pattern"] v
  return {
    sink := ← required (fun v => (choice? v).bind Sink.ofName?) "type" ms
    indexPattern := ← defaulted text? "" "index-pattern" ms }

def write (o : Output) : Json :=
  .object [("type", .text o.sink.name), ("index-pattern", .text o.indexPattern)]

end Output

namespace WatchRule

def read? (v : α) : Option WatchRule := do
  let ms ← record? ["namespace", "tag", "deployments", "parsers", "outputs"] v
  return {
    ns := ← required text? "namespace" ms
    tag := ← defaulted text? "" "tag" ms
    deployments := ← defaulted (listOf? text?) [] "deployments" ms
    parsers := ← defaulted (listOf? text?) [] "parsers" ms
    outputs := ← defaulted (listOf? Output.read?) [] "outputs" ms }

def write (r : WatchRule) : Json :=
  .object
    [("namespace", .text r.ns),
     ("tag", .text r.tag),
     ("deployments", .texts r.deployments),
     ("parsers", .texts r.parsers),
     ("outputs", .list (r.outputs.map Output.write))]

end WatchRule

namespace SearchEngine

/-- No search engine: none is provided and no external one is named. -/
def none : SearchEngine :=
  ⟨false, "", .none, false⟩

def read? (v : α) : Option SearchEngine := do
  let ms ← record? ["required", "host", "port", "https"] v
  return {
    required := ← defaulted bool? false "required" ms
    host := ← defaulted text? "" "host" ms
    port := ← defaulted (nullable? port?) .none "port" ms
    https := ← defaulted bool? false "https" ms }

def write (e : SearchEngine) : Json :=
  .object
    [("required", .bool e.required),
     ("host", .text e.host),
     ("port", match e.port with | some p => .int p.toNat | .none => .null),
     ("https", .bool e.https)]

end SearchEngine

namespace Spec

/-- The specification that asks for nothing. -/
def blank : Spec :=
  ⟨"", "", false, "", [], [], .none, false⟩

def read? (v : α) : Option Spec := do
  let ms ← record?
    ["namespace", "collector-logfile", "include-k8s-metadata", "es-kib-version", "parsers", "watch",
     "elasticsearch", "kibana"] v
  return {
    ns := ← defaulted text? "" "namespace" ms
    collectorLogfile := ← defaulted text? "" "collector-logfile" ms
    includeMetadata := ← defaulted bool? false "include-k8s-metadata" ms
    version := ← defaulted text? "" "es-kib-version" ms
    parsers := ← defaulted (listOf? LogParser.read?) [] "parsers" ms
    watch := ← defaulted (listOf? WatchRule.read?) [] "watch" ms
    searchEngine := ← defaulted SearchEngine.read? .none "elasticsearch" ms
    dashboard := ← defaulted bool? false "kibana" ms }

def write (s : Spec) : Json :=
  .object
    [("namespace", .text s.ns),
     ("collector-logfile", .text s.collectorLogfile),
     ("include-k8s-metadata", .bool s.includeMetadata),
     ("es-kib-version", .text s.version),
     ("parsers", .list (s.parsers.map LogParser.write)),
     ("watch", .list (s.watch.map WatchRule.write)),
     ("elasticsearch", s.searchEngine.write),
     ("kibana", .bool s.dashboard)]

end Spec

end LogOperator
