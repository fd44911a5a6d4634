import LogOperator.Proofs.Config.Directives
import LogOperator.Proofs.Config.Sections
import Mathlib.Algebra.Ring.Nat

/-!
# LogOperator.Proofs.Config.Outline

What the values of a pipeline cannot change.  A reader of the collector's texts takes a line for a
header, for an entry with its key or for the end of a section (`LineKind`), and a reader of the
aggregator's text looks for the lines that open and close blocks (`Mark`).  Values are none of these,
so the outline of every text follows from how many routes, paths, parsers and outputs there are:

* `Section.readAll_outline_render` — the kinds of the lines of sections;
* `Collector.outline`, `Collector.parsersOutline`, `Aggregator.outline` — the outlines, from the numbers;
* `RoutingTable.outline_of_counts` — the texts of a valid pipeline have these outlines.
-/

namespace LogOperator

/-! ## Kinds of lines -/

/-- What a line of a text of sections is there for. -/
inductive LineKind where
  | blank
  | header (line : String)
  | entry (key : String)
  | other
deriving DecidableEq

namespace LineKind

/-- A bracket at the start makes a header, and an indentation of four spaces an entry. -/
def ofLine (line : String) : LineKind :=
  match line.toList with
  | [] => blank
  | '[' :: _ => header line
  | ' ' :: ' ' :: ' ' :: ' ' :: _ => entry (Section.keyOf line)
  | _ => other

/-- The kinds of the lines of a text. -/
def readAll (text : String) : List LineKind :=
  (Text.lines text).map ofLine

/-- The lines of a section with the given header and keys. -/
def block (header : String) (keys : List String) : List LineKind :=
  .header ("[" ++ header ++ "]") :: keys.map entry

/-- Sections are apart by a blank line. -/
def join (blocks : List (List LineKind)) : List LineKind :=
  [blank].intercalate blocks

end LineKind

namespace Section

variable {s : Section} {ss : List Section} {w : Nat} {key value : String}

/-- The outline of a section. -/
def outline (s : Section) : List LineKind :=
  LineKind.block s.header s.keys

/-- A line of a section is the entry of its key. -/
theorem ofLine_entryLine (h : ' ' ∉ key.toList) :
    LineKind.ofLine (entryLine w (key, value)) = .entry key := by
  have hchars : (entryLine w (key, value)).toList = ' ' :: ' ' :: ' ' :: ' ' ::
      (key.toList ++ (List.replicate (w - key.length) ' ' ++ ' ' :: value.toList)) :=
    toList_entryLine w key value
  rw [LineKind.ofLine, hchars]
  exact congrArg LineKind.entry (keyOf_entryLine h)

/-- The kinds of a section's lines are its outline. -/
theorem map_ofLine_lines (h : s.Legible) : s.lines.map LineKind.ofLine = s.outline := by
  have hheader : LineKind.ofLine ("[" ++ s.header ++ "]") = .header ("[" ++ s.header ++ "]") := by
    have hchars : ("[" ++ s.header ++ "]").toList = '[' :: (s.header.toList ++ [']']) := by
      simp [String.toList_append]
    rw [LineKind.ofLine, hchars]
    rfl
  have hentry : ∀ e ∈ s.entries, LineKind.ofLine (entryLine s.width e) = .entry e.1 := fun e he =>
    ofLine_entryLine (h.keys e.1 (List.mem_map.2 ⟨e, he, rfl⟩)).2
  rw [lines, List.map_cons, hheader, List.map_map, outline, LineKind.block, keys, List.map_map]
  exact congrArg _ (List.map_congr_left hentry)

/-- **The outline of a text of sections** is that of its sections, one after the other. -/
theorem readAll_outline_render (h : ∀ s ∈ ss, s.Legible) :
    LineKind.readAll (render ss) = LineKind.join (ss.map outline) := by
  rw [LineKind.readAll, lines_render h, Text.map_spaced, List.map_map]
  exact congrArg _ (List.map_congr_left fun s hs => map_ofLine_lines (h s hs))

end Section

/-! ## Outlines from numbers -/

namespace Collector

variable {t : RoutingTable} {rs : List Route}

/-- The outline of a section that tails files. -/
def inputBlock : List LineKind :=
  LineKind.block "INPUT" ["Name", "Tag", "Path", "Parser", "Refresh_Interval", "Mem_Buf_Limit",
    "Skip_Long_Lines"]

/-- The outline of a section that applies a parser. -/
def parserFilterBlock : List LineKind :=
  LineKind.block "FILTER" ["Name", "Match", "Key_Name", "Parser", "Reserve_Data"]

/-- The outline of a section that defines a parser of the pipeline. -/
def parserBlock : List LineKind :=
  LineKind.block "PARSER" ["Name", "Format", "Regex"]

/-- The outline of the collector's main text: the service, the inputs, the filters for parsers, the one
for metadata if there is to be one, and the output. -/
def outline (inputs filters : Nat) (metadata : Bool) : List LineKind :=
  LineKind.join <|
    LineKind.block "SERVICE" ["Flush", "Log_Level", "Log_File", "Daemon", "HTTP_Server", "HTTP_Listen",
      "HTTP_Port", "Parsers_File"]
    :: List.replicate inputs inputBlock
    ++ List.replicate filters parserFilterBlock
    ++ (if metadata then [LineKind.block "FILTER" ["Name", "Match", "K8S-Logging.Parser", "Merge_Log"]]
      else [])
    ++ [LineKind.block "OUTPUT" ["Name", "Match", "Host", "Port"]]

/-- The outline of the definitions of parsers: those of the pipeline and the one that is built in. -/
def parsersOutline (parsers : Nat) : List LineKind :=
  LineKind.join <|
    List.replicate parsers parserBlock
    ++ [LineKind.block "PARSER" ["Name", "Format", "Time_Key", "Time_Format", "Time_Keep",
      "Decode_Field_As"]]

/-- Sections of routes that are all alike are as many as the items that they are about. -/
theorem map_outline_eq_replicate {α : Type} (items : Route → List α) (build : Route → α → Section)
    (block : List LineKind) (h : ∀ r x, (build r x).outline = block) :
    (rs.flatMap fun r => (items r).map (build r)).map Section.outline
      = List.replicate (rs.map fun r => (items r).length).sum block := by
  refine List.eq_replicate_iff.2 ⟨by simp [List.length_flatMap], ?_⟩
  simp only [List.forall_mem_map, List.forall_mem_flatMap]
  exact fun r _ x _ => h r x

/-- The outline of the collector's sections is told by how many paths and parsers the routes have.
-/
theorem outline_sections (t : RoutingTable) :
    LineKind.join ((sections t).map Section.outline) = outline (t.routes.map (·.paths.length)).sum
      (t.routes.map (·.parsers.length)).sum t.includeMetadata := by
  have hinputs : (inputs t.routes).map Section.outline
      = List.replicate (t.routes.map (·.paths.length)).sum inputBlock :=
    map_outline_eq_replicate (·.paths) inputSection inputBlock fun _ _ => rfl
  have hfilters : (parserFilters t.routes).map Section.outline
      = List.replicate (t.routes.map (·.parsers.length)).sum parserFilterBlock :=
    map_outline_eq_replicate (·.parsers) parserFilter parserFilterBlock fun _ _ => rfl
  have hmetadata : (metadataFilters t.includeMetadata).map Section.outline
      = if t.includeMetadata then [metadataFilter.outline] else [] := by
    unfold metadataFilters
    split <;> rfl
  rw [sections_eq]
  simp only [List.map_append, List.map_cons, hinputs, hfilters, hmetadata]
  rfl

/-- That of the parser file is told by how many parsers there are. -/
theorem outline_parserSections (t : RoutingTable) :
    LineKind.join ((parserSections t).map Section.outline) = parsersOutline t.parsers.length := by
  have hparsers : (t.parsers.map parserSection).map Section.outline
      = List.replicate t.parsers.length parserBlock := by
    rw [List.map_map, ← List.map_const']
    rfl
  rw [parserSections, List.map_append, hparsers]
  rfl

end Collector

namespace Aggregator

/-- The outline of the aggregator's text: the source, the filter, and a block for every route with as
many stores in it as the route has outputs. -/
def outline (outputs : List Nat) : List Mark :=
  [.enter "source" "", .leave "source", .enter "filter" "", .leave "filter"]
    ++ outputs.flatMap fun n => .enter "match" "" :: (List.replicate n storeMarks).flatten
      ++ [.leave "match"]

/-- The marks of a route, without what they say, are told by how many outputs it has. -/
theorem map_bare_routeMarks (r : Route) : (routeMarks r).map Mark.bare =
    .enter "match" "" :: (List.replicate r.outputs.length storeMarks).flatten ++ [.leave "match"] := by
  have hstores : (r.outputs.flatMap fun _ => storeMarks).map Mark.bare
      = (List.replicate r.outputs.length storeMarks).flatten := by
    rw [List.map_flatMap, ← List.map_const', ← List.flatMap_def]
    rfl
  rw [routeMarks, List.map_append, List.map_cons, hstores]
  rfl

/-- Those of a table are told by how many outputs each route has. -/
theorem map_bare_marks (t : RoutingTable) :
    (marks t).map Mark.bare = outline (t.routes.map (·.outputs.length)) := by
  rw [marks, List.map_append, List.map_flatMap, outline, List.flatMap_map]
  exact congrArg _ (congrArg t.routes.flatMap (funext map_bare_routeMarks))

end Aggregator

/-! ## Valid pipelines -/

namespace RoutingTable

variable {p : Pipeline} {v : ValidPipeline}

/-- **Values do not change the outline.**  Read line by line, the texts of a valid pipeline are what the
numbers of paths, parsers and outputs of its routes make them, and the blocks of the aggregator's text
nest. -/
theorem outline_of_counts (hv : p.validate = .ok v) :
    LineKind.readAll ((ofValid v).compile .collector)
      = Collector.outline ((ofValid v).routes.map (·.paths.length)).sum
          ((ofValid v).routes.map (·.parsers.length)).sum (ofValid v).includeMetadata ∧
    LineKind.readAll ((ofValid v).compile .parsers)
      = Collector.parsersOutline (ofValid v).parsers.length ∧
    (Mark.readAll ((ofValid v).compile .aggregator)).map Mark.bare
      = Aggregator.outline ((ofValid v).routes.map (·.outputs.length)) ∧
    WellNested (Mark.readAll ((ofValid v).compile .aggregator)) := by
  have h := wellFormed_ofValid hv
  refine ⟨?_, ?_, ?_, ?_⟩
  · exact (Section.readAll_outline_render (Collector.legible_sections h)).trans
      (Collector.outline_sections _)
  · exact (Section.readAll_outline_render (Collector.legible_parserSections h.oneLine_parsers)).trans
      (Collector.outline_parserSections _)
  · rw [readAll_aggregator h, Aggregator.map_bare_marks]
  · rw [readAll_aggregator h]
    exact Aggregator.wellNested_marks _

/-- Two tags, of four paths, three parsers and three outputs. -/
theorem outline_of_counts_teams : Pipeline.teams.validate = .ok Pipeline.teams.validated ∧
    LineKind.readAll ((ofValid Pipeline.teams.validated).compile .collector)
      = Collector.outline 4 3 true ∧
    LineKind.readAll ((ofValid Pipeline.teams.validated).compile .parsers)
      = Collector.parsersOutline 2 ∧
    (Mark.readAll ((ofValid Pipeline.teams.validated).compile .aggregator)).map Mark.bare
      = Aggregator.outline [2, 1] ∧
    WellNested (Mark.readAll ((ofValid Pipeline.teams.validated).compile .aggregator)) := by
  have houtline := outline_of_counts Pipeline.validate_teams
  have hpaths : ((ofValid Pipeline.teams.validated).routes.map (·.paths.length)).sum = 4 := by
    decide +kernel
  have hparsers : ((ofValid Pipeline.teams.validated).routes.map (·.parsers.length)).sum = 3 := by
    decide +kernel
  have hdefined : (ofValid Pipeline.teams.validated).parsers.length = 2 := by decide +kernel
  have houtputs : (ofValid Pipeline.teams.validated).routes.map (·.outputs.length) = [2, 1] := by
    decide +kernel
  rw [hpaths, hparsers, hdefined, houtputs] at houtline
  exact ⟨Pipeline.validate_teams, houtline⟩

end RoutingTable

end LogOperator
