import LogOperator.Config.Dialect
import LogOperator.Proofs.Config.Reading
import LogOperator.Proofs.Routing.Table

/-!
# LogOperator.Proofs.Config.Sections

The sections of the collector's two texts.  They are legible, so reading a text gives them back, and
each kind of section is found again by its header and its name:

* `RoutingTable.readAll_collector`, `RoutingTable.readAll_parsers` — the sections that the texts of a
  routing table stand for;
* `filter_isInput_sections`, `filter_isParserFilter_sections`, `filter_isMetadataFilter_sections` — the
  sections that the routes and the metadata flag are read off.
-/

namespace LogOperator

/-! ## Kinds of sections -/

namespace Section

/-- The section says how the collector itself runs. -/
def isService (s : Section) : Bool :=
  s.header == "SERVICE"

/-- The section tails files. -/
def isInput (s : Section) : Bool :=
  s.header == "INPUT"

/-- The section passes records through the filter of the given name. -/
def isFilter (name : String) (s : Section) : Bool :=
  s.header == "FILTER" && s.value? "Name" == some name

end Section

namespace Collector

open Text (OneLine)

variable {t : RoutingTable} {r : Route} {path : String} {p : LogParser} {rs : List Route}

/-- The sections that tail the files of routes. -/
def inputs (rs : List Route) : List Section :=
  rs.flatMap fun r => r.paths.map (inputSection r)

/-- The sections that apply the parsers of routes. -/
def parserFilters (rs : List Route) : List Section :=
  rs.flatMap fun r => r.parsers.map (parserFilter r)

/-- The section that adds metadata, if records are to have it. -/
def metadataFilters (enabled : Bool) : List Section :=
  if enabled then [metadataFilter] else []

/-- The sections of the collector: service, inputs, filters and output, in this order. -/
theorem sections_eq (t : RoutingTable) : sections t =
    serviceSection t :: inputs t.routes ++ parserFilters t.routes
      ++ metadataFilters t.includeMetadata ++ [forwardOutput] := rfl

/-- There is an input for each path of each route. -/
theorem forall_mem_inputs {P : Section → Prop} :
    (∀ s ∈ inputs rs, P s) ↔ ∀ r ∈ rs, ∀ path ∈ r.paths, P (inputSection r path) := by
  simp only [inputs, List.forall_mem_flatMap, List.forall_mem_map]

/-- There is a parser filter for each parser of each route. -/
theorem forall_mem_parserFilters {P : Section → Prop} :
    (∀ s ∈ parserFilters rs, P s) ↔ ∀ r ∈ rs, ∀ p ∈ r.parsers, P (parserFilter r p) := by
  simp only [parserFilters, List.forall_mem_flatMap, List.forall_mem_map]

theorem forall_mem_metadataFilters {P : Section → Prop} {enabled : Bool} (h : P metadataFilter) :
    ∀ s ∈ metadataFilters enabled, P s := by
  unfold metadataFilters
  split
  · exact List.forall_mem_singleton.2 h
  · exact List.forall_mem_nil _

/-- What holds of every kind of section holds of all sections. -/
theorem forall_mem_sections {P : Section → Prop} (hservice : P (serviceSection t))
    (hinputs : ∀ r ∈ t.routes, ∀ path ∈ r.paths, P (inputSection r path))
    (hfilters : ∀ r ∈ t.routes, ∀ p ∈ r.parsers, P (parserFilter r p))
    (hmetadata : P metadataFilter) (houtput : P forwardOutput) : ∀ s ∈ sections t, P s := by
  rw [sections_eq]
  simp only [List.forall_mem_append, List.forall_mem_cons]
  exact ⟨⟨⟨⟨hservice, forall_mem_inputs.2 hinputs⟩, forall_mem_parserFilters.2 hfilters⟩,
    forall_mem_metadataFilters hmetadata⟩, houtput, List.forall_mem_nil _⟩

/-! ## Finding sections again -/

/-- A test that all elements answer alike keeps all of them or none. -/
theorem filter_eq_of_forall_eq {α : Type} {f : α → Bool} {l : List α} {keep : Bool}
    (h : ∀ a ∈ l, f a = keep) : l.filter f = if keep then l else [] := by
  cases keep with
  | true => exact List.filter_eq_self.2 h
  | false => exact List.filter_eq_nil_iff.2 fun a ha => Bool.eq_false_iff.1 (h a ha)

/-- A test that goes by the kind of a section keeps the sections of some kinds. -/
theorem filter_sections (t : RoutingTable) (f : Section → Bool)
    (service input parser metadata output : Bool) (hservice : f (serviceSection t) = service)
    (hinput : ∀ r path, f (inputSection r path) = input)
    (hparser : ∀ r p, f (parserFilter r p) = parser) (hmetadata : f metadataFilter = metadata)
    (houtput : f forwardOutput = output) : (sections t).filter f =
      (if service then [serviceSection t] else [])
        ++ (if input then inputs t.routes else [])
        ++ (if parser then parserFilters t.routes else [])
        ++ (if metadata then metadataFilters t.includeMetadata else [])
        ++ (if output then [forwardOutput] else []) := by
  rw [sections_eq, ← List.singleton_append]
  simp only [List.filter_append]
  rw [filter_eq_of_forall_eq (List.forall_mem_singleton.2 hservice),
    filter_eq_of_forall_eq (forall_mem_inputs.2 fun r _ path _ => hinput r path),
    filter_eq_of_forall_eq (forall_mem_parserFilters.2 fun r _ p _ => hparser r p),
    filter_eq_of_forall_eq (forall_mem_metadataFilters hmetadata),
    filter_eq_of_forall_eq (List.forall_mem_singleton.2 houtput)]

/-- The service section is found by its header. -/
theorem filter_isService_sections (t : RoutingTable) :
    (sections t).filter Section.isService = [serviceSection t] := by
  rw [filter_sections t Section.isService true false false false false rfl (fun _ _ => rfl)
    (fun _ _ => rfl) rfl rfl]
  rfl

theorem filter_isInput_sections (t : RoutingTable) :
    (sections t).filter Section.isInput = inputs t.routes := by
  rw [filter_sections t Section.isInput false true false false false rfl (fun _ _ => rfl)
    (fun _ _ => rfl) rfl rfl]
  simp

theorem filter_isParserFilter_sections (t : RoutingTable) :
    (sections t).filter (Section.isFilter "parser") = parserFilters t.routes := by
  rw [filter_sections t (Section.isFilter "parser") false false true false false rfl
    (fun _ _ => rfl) (fun _ _ => rfl) rfl rfl]
  simp

theorem filter_isMetadataFilter_sections (t : RoutingTable) :
    (sections t).filter (Section.isFilter "kubernetes") = metadataFilters t.includeMetadata := by
  rw [filter_sections t (Section.isFilter "kubernetes") false false false true false rfl
    (fun _ _ => rfl) (fun _ _ => rfl) rfl rfl]
  simp

/-! ## Legibility -/

/-- The service section can be read back if level and log file are single lines. -/
theorem legible_serviceSection (hlevel : OneLine t.logLevel) (hfile : OneLine t.logFile) :
    (serviceSection t).Legible where
  header := (by decide : OneLine "SERVICE")
  keys := by
    show ∀ key ∈ ["Flush", "Log_Level", "Log_File", "Daemon", "HTTP_Server", "HTTP_Listen",
      "HTTP_Port", "Parsers_File"], OneLine key ∧ ' ' ∉ key.toList
    decide
  values := by
    show ∀ value ∈ ["1", t.logLevel, t.logFile, "off", "On", "0.0.0.0", Nat.repr httpPort,
      parsersFile], OneLine value
    simp only [List.forall_mem_cons]
    exact ⟨by decide, hlevel, hfile, by decide⟩

theorem legible_inputSection (htag : OneLine r.tag) (hpath : OneLine path) :
    (inputSection r path).Legible where
  header := (by decide : OneLine "INPUT")
  keys := by
    show ∀ key ∈ ["Name", "Tag", "Path", "Parser", "Refresh_Interval", "Mem_Buf_Limit",
      "Skip_Long_Lines"], OneLine key ∧ ' ' ∉ key.toList
    decide
  values := by
    show ∀ value ∈ ["tail", r.tagPattern, path, Spec.runtimeParser, "5", "5MB", "On"], OneLine value
    simp only [List.forall_mem_cons]
    exact ⟨by decide, htag.append (by decide), hpath, by decide⟩

theorem legible_parserFilter (htag : OneLine r.tag) (hname : OneLine p.name) :
    (parserFilter r p).Legible where
  header := (by decide : OneLine "FILTER")
  keys := by
    show ∀ key ∈ ["Name", "Match", "Key_Name", "Parser", "Reserve_Data"],
      OneLine key ∧ ' ' ∉ key.toList
    decide
  values := by
    show ∀ value ∈ ["parser", r.tagPattern, "log", p.name, "On"], OneLine value
    simp only [List.forall_mem_cons]
    exact ⟨by decide, htag.append (by decide), by decide, hname, by decide⟩

theorem legible_metadataFilter : metadataFilter.Legible :=
  ⟨by decide, by decide, by decide⟩

theorem legible_forwardOutput : forwardOutput.Legible :=
  ⟨by decide, by decide, by decide⟩

theorem legible_parserSection (h : p.OneLine) : (parserSection p).Legible where
  header := (by decide : OneLine "PARSER")
  keys := by
    show ∀ key ∈ ["Name", "Format", "Regex"], OneLine key ∧ ' ' ∉ key.toList
    decide
  values := by
    show ∀ value ∈ [p.name, "regex", p.pattern], OneLine value
    simp only [List.forall_mem_cons]
    exact ⟨h.name, by decide, h.pattern, List.forall_mem_nil _⟩

theorem legible_runtimeParserSection : runtimeParserSection.Legible :=
  ⟨by decide, by decide, by decide⟩

/-- **All sections of the collector** can be read back. -/
theorem legible_sections (h : t.WellFormed) : ∀ s ∈ sections t, s.Legible := by
  have hlevel : OneLine t.logLevel := by
    rw [h.logLevel]
    decide
  refine forall_mem_sections (legible_serviceSection hlevel h.logFile) (fun r hr path hpath => ?_)
    (fun r hr p hp => ?_) legible_metadataFilter legible_forwardOutput
  · have hline := (h.routes r hr).oneLine
    exact legible_inputSection hline.tag (hline.paths path hpath)
  · have hline := (h.routes r hr).oneLine
    exact legible_parserFilter hline.tag (hline.parsers p hp).name

/-- And so can those of its parser file. -/
theorem legible_parserSections (h : ∀ p ∈ t.parsers, p.OneLine) :
    ∀ s ∈ parserSections t, s.Legible := by
  refine List.forall_mem_append.2 ⟨List.forall_mem_map.2 fun p hp => ?_, ?_⟩
  · exact legible_parserSection (h p hp)
  · exact List.forall_mem_singleton.2 legible_runtimeParserSection

end Collector

/-! ## Reading -/

namespace RoutingTable

variable {t : RoutingTable}

/-- **The collector's main text, read back.** -/
theorem readAll_collector (h : t.WellFormed) :
    Section.readAll (t.compile .collector) = Collector.sections t :=
  Section.readAll_render (Collector.legible_sections h)

/-- **The definitions of parsers, read back.** -/
theorem readAll_parsers (h : ∀ p ∈ t.parsers, p.OneLine) :
    Section.readAll (t.compile .parsers) = Collector.parserSections t :=
  Section.readAll_render (Collector.legible_parserSections h)

/-- Names and patterns of parsers are single lines in a well-formed table. -/
theorem WellFormed.oneLine_parsers (h : t.WellFormed) : ∀ p ∈ t.parsers, p.OneLine :=
  fun p hp => (h.parsers p hp).oneLine

end RoutingTable

end LogOperator
