import LogOperator.Config.Section
import LogOperator.Routing.Table

/-!
# LogOperator.Config.Collector

The configuration of the collector: it tails the files of every route, applies the route's parsers, and
forwards everything to the aggregator.  The parsers are defined in a file of their own.
-/

namespace LogOperator.Collector

def mainFile : String := "fluent-bit.conf"

/-- The file that defines the parsers. -/
def parsersFile : String := "parsers.conf"

/-- The port that the collector reports its state on. -/
def httpPort : Nat := 2020

/-! ## The main file -/

/-- How the collector itself runs. -/
def serviceSection (t : RoutingTable) : Section :=
  ⟨"SERVICE",
    [("Flush", "1"),
     ("Log_Level", t.logLevel),
     ("Log_File", t.logFile),
     ("Daemon", "off"),
     ("HTTP_Server", "On"),
     ("HTTP_Listen", "0.0.0.0"),
     ("HTTP_Port", Nat.repr httpPort),
     ("Parsers_File", parsersFile)]⟩

/-- The files of one glob are tailed under the tag of their route. -/
def inputSection (r : Route) (path : String) : Section :=
  ⟨"INPUT",
    [("Name", "tail"),
     ("Tag", r.tagPattern),
     ("Path", path),
     ("Parser", Spec.runtimeParser),
     ("Refresh_Interval", "5"),
     ("Mem_Buf_Limit", "5MB"),
     ("Skip_Long_Lines", "On")]⟩

/-- A parser is applied to the records of its route. -/
def parserFilter (r : Route) (p : LogParser) : Section :=
  ⟨"FILTER",
    [("Name", "parser"),
     ("Match", r.tagPattern),
     ("Key_Name", "log"),
     ("Parser", p.name),
     ("Reserve_Data", "On")]⟩

/-- Records are enriched with the metadata of their pod. -/
def metadataFilter : Section :=
  ⟨"FILTER",
    [("Name", "kubernetes"),
     ("Match", "**"),
     ("K8S-Logging.Parser", "On"),
     ("Merge_Log", "On")]⟩

/-- Everything goes to the aggregator, whose address is in the environment of the pod. -/
def forwardOutput : Section :=
  ⟨"OUTPUT",
    [("Name", "forward"),
     ("Match", "*"),
     ("Host", "$\x7bFLUENTD_SERVICE_HOST\x7d"),
     ("Port", "$\x7bFLUENTD_SERVICE_PORT\x7d")]⟩

def sections (t : RoutingTable) : List Section :=
  serviceSection t
    :: (t.routes.flatMap fun r => r.paths.map (inputSection r))
    ++ (t.routes.flatMap fun r => r.parsers.map (parserFilter r))
    ++ (if t.includeMetadata then [metadataFilter] else [])
    ++ [forwardOutput]

/-! ## The definitions of parsers -/

/-- A parser that the pipeline defines. -/
def parserSection (p : LogParser) : Section :=
  ⟨"PARSER", [("Name", p.name), ("Format", "regex"), ("Regex", p.pattern)]⟩

/-- The parser of the lines that the container runtime writes. -/
def runtimeParserSection : Section :=
  ⟨"PARSER",
    [("Name", Spec.runtimeParser),
     ("Format", "json"),
     ("Time_Key", "time"),
     ("Time_Format", "%Y-%m-%dT%H:%M:%S.%L"),
     ("Time_Keep", "On"),
     ("Decode_Field_As", "escaped log")]⟩

/-- The sections of the file that defines the parsers. -/
def parserSections (t : RoutingTable) : List Section :=
  t.parsers.map parserSection ++ [runtimeParserSection]

end LogOperator.Collector
