import LogOperator.Routing.Table
import LogOperator.Text.Lines

/-!
# LogOperator.Config.Aggregator

The configuration of the aggregator: it receives forwarded records and, for every tag, copies each record
to all outputs of the route.  The search engine's address is not part of the text; the aggregator takes
it from its environment.
-/

namespace LogOperator.Aggregator

/-- The file that the aggregator starts from. -/
def mainFile : String := "fluent.conf"

/-- The port that forwarded records arrive on. -/
def forwardPort : Nat := 8777

def hostVariable : String := "ES_HOST"

def portVariable : String := "ES_PORT"

def schemeVariable : String := "ES_SCHEME"

/-- Records are received from collectors. -/
def source : List String :=
  ["<source>",
   "  @type forward",
   "  port " ++ Nat.repr forwardPort,
   "  bind 0.0.0.0",
   "</source>"]

/-- Every record has a time that the search engine accepts. -/
def timestampCheck : List String :=
  ["<filter **>", "  @type elasticsearch_timestamp_check", "</filter>"]

/-- A parameter whose value is read from the environment. -/
def environmentParameter (key name : String) : String :=
  key ++ " \"#\x7bENV['" ++ name ++ "']\x7d\""

def parameters (o : Output) : List String :=
  match o.sink with
  | .searchEngine =>
    ["@type " ++ o.sink.name,
     environmentParameter "host" hostVariable,
     environmentParameter "port" portVariable,
     environmentParameter "scheme" schemeVariable,
     "logstash_format true",
     "logstash_prefix " ++ o.indexPattern,
     "flush_interval 1s"]
  | .stdout => ["@type " ++ o.sink.name]

/-- The lines of an output. -/
def store (o : Output) : List String :=
  "  <store>" :: ((parameters o).map ("    " ++ ·) ++ ["  </store>"])

/-- Records of the route's tag are copied to all of its outputs. -/
def routeLines (r : Route) : List String :=
  ["<match " ++ r.tag ++ "**>", "  @type copy"] ++ r.outputs.flatMap store ++ ["</match>"]

def blocks (t : RoutingTable) : List (List String) :=
  source :: timestampCheck :: t.routes.map routeLines

end LogOperator.Aggregator
