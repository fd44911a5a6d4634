import LogOperator.Pipeline.Validation

/-!
# LogOperator.Routing.Table

The routing table of a valid pipeline.  Rules are grouped by tag, in order of first appearance; within a
route, globs, parsers and outputs are listed once, parsers with the pattern that the pipeline defines
for them, and an output to the search engine without an index is filed under the tag.
-/

namespace LogOperator

/-- Everything that is done with the records of one tag. -/
structure Route where
  tag : String
  /-- Globs of the files that records come from. -/
  paths : List String
  parsers : List LogParser
  outputs : List Output
deriving DecidableEq, Inhabited

/-- What the configurations of collector and aggregator are made from. -/
structure RoutingTable where
  logLevel : String
  logFile : String
  includeMetadata : Bool
  /-- All parsers that the pipeline defines, in order. -/
  parsers : List LogParser
  routes : List Route
deriving DecidableEq, Inhabited

/-- The directory that holds the logs of all pods of a node. -/
def containerLogDir : String := "/var/log/containers"

namespace WatchRule

/-- The glob of the files of a namespace whose pod names start as given. -/
def glob (r : WatchRule) (pod : String) : String :=
  containerLogDir ++ "/" ++ pod ++ "*_" ++ r.ns ++ "_*"

/-- The globs of the files that a rule collects: one per deployment, or one for all pods of the
namespace. -/
def globs (r : WatchRule) : List String :=
  if r.deployments.isEmpty then [r.glob ""] else r.deployments.map r.glob

end WatchRule

/-- The output with its index: the tag, when the search engine would otherwise have none. -/
def Output.resolve (tag : String) (o : Output) : Output :=
  if o.sink = .searchEngine ∧ o.indexPattern = "" then { o with indexPattern := tag } else o

namespace Route

/-- The route of a tag for its rules, with parsers looked up by name. -/
def ofRules (parsers : List LogParser) (tag : String) (rules : List WatchRule) : Route where
  tag := tag
  paths := Spec.distinct (rules.flatMap (·.globs))
  parsers := (Spec.distinct (rules.flatMap (·.parsers))).filterMap fun name =>
    parsers.find? (·.name = name)
  outputs := Spec.distinct ((rules.flatMap (·.outputs)).map (Output.resolve tag))

/-- The pattern that collector tags of the route match: the tag, a dot and the file's own tag. -/
def tagPattern (r : Route) : String :=
  r.tag ++ ".*"

end Route

namespace RoutingTable

/-- The level of the collector's own log. -/
def collectorLogLevel : String := "info"

def ofSpec (s : Spec) : RoutingTable where
  logLevel := collectorLogLevel
  logFile := s.collectorLogfile
  includeMetadata := s.includeMetadata
  parsers := s.parsers
  routes := s.tags.map fun tag =>
    Route.ofRules s.parsers tag (s.watch.filter (·.effectiveTag = tag))

def ofValid (v : ValidPipeline) : RoutingTable :=
  ofSpec v.spec

end RoutingTable

end LogOperator
