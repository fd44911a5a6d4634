import LogOperator.Config.Aggregator
import LogOperator.Config.Collector
import LogOperator.Dict

/-!
# LogOperator.Config.Dialect

The configuration texts that a routing table compiles to, and the files they are mounted as.

* `RoutingTable.compile`: the text in a dialect.
* `RoutingTable.collectorFiles`, `RoutingTable.aggregatorFiles`: the files of a component by name.
-/

namespace LogOperator

/-- The configuration languages of the components. -/
inductive Dialect where
  | collector
  | parsers
  | aggregator
deriving DecidableEq, Inhabited

namespace Dialect

/-- All dialects, in the order in which they are shown. -/
def all : List Dialect :=
  [collector, parsers, aggregator]

def name : Dialect → String
  | collector => "collector"
  | parsers => "parsers"
  | aggregator => "aggregator"

def ofName? (s : String) : Option Dialect :=
  all.find? fun d => d.name == s

/-- The file that holds the text of a dialect. -/
def file : Dialect → String
  | collector => Collector.mainFile
  | parsers => Collector.parsersFile
  | aggregator => Aggregator.mainFile

end Dialect

namespace RoutingTable

/-- The text of a routing table in a dialect. -/
def compile (t : RoutingTable) : Dialect → String
  | .collector => Section.render (Collector.sections t)
  | .parsers => Section.render (Collector.parserSections t)
  | .aggregator => Text.unlines (Text.spaced (Aggregator.blocks t))

/-- The files of the given dialects by name. -/
def files (t : RoutingTable) (dialects : List Dialect) : TextMap :=
  Dict.ofList (dialects.map fun d => (d.file, t.compile d))

/-- The files that the collector mounts. -/
def collectorFiles (t : RoutingTable) : TextMap :=
  t.files [.collector, .parsers]

/-- The files that the aggregator mounts. -/
def aggregatorFiles (t : RoutingTable) : TextMap :=
  t.files [.aggregator]

end RoutingTable

end LogOperator
