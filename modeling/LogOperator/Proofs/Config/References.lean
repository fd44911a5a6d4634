import LogOperator.Proofs.Config.Directives
import LogOperator.Proofs.Config.Patterns

/-!
# LogOperator.Proofs.Config.References

What the texts of one routing table say about each other.  The collector's text refers to parsers by
name and to the file that defines them, and it gives records the tags that the aggregator's text looks
for:

* `Collector.length_filter_defines` — a parser of the table or the one that is built in has one
  definition;
* `Collector.mem_patterns_iff` — the tags of the collector's sections are those of the routes;
* `RoutingTable.dialects_agree` — the texts of a valid pipeline agree with each other.
-/

namespace LogOperator

/-! ## References and definitions -/

namespace Section

/-- The names of the parsers that a section refers to. -/
def parserNames (s : Section) : List String :=
  if s.header = "INPUT" ∨ s.header = "FILTER" then
    (s.entries.filter (·.1 = "Parser")).map (·.2)
  else []

/-- The section defines the parser of the given name. -/
def defines (name : String) (s : Section) : Bool :=
  s.header == "PARSER" && s.value? "Name" == some name

end Section

namespace Collector

variable {t : RoutingTable} {name : String} {rs : List Route}

/-- Names tell the definitions apart, and none of them is that of the parser that is built in. -/
theorem length_filter_defines (h : t.WellFormed)
    (hname : name = Spec.runtimeParser ∨ name ∈ LogParser.names t.parsers) :
    ((parserSections t).filter (Section.defines name)).length = 1 := by
  have hdefined : ((t.parsers.map parserSection).filter (Section.defines name)).length
      = (LogParser.names t.parsers).count name := by
    rw [← List.countP_eq_length_filter, List.countP_map, LogParser.names, List.count,
      List.countP_map]
    rfl
  have hruntime : Spec.runtimeParser ∉ LogParser.names t.parsers := by
    intro hmem
    obtain ⟨p, hp, hsame⟩ := LogParser.mem_names.1 hmem
    exact (h.parsers p hp).ne_runtime hsame
  rw [parserSections, List.filter_append, List.length_append, hdefined, h.names.count]
  rcases hname with rfl | hname
  · rw [if_neg hruntime]
    rfl
  · have hne : Spec.runtimeParser ≠ name := fun hsame => hruntime (hsame ▸ hname)
    have hother : runtimeParserSection.defines name = false :=
      beq_eq_false_iff_ne.2 fun hsame => hne (Option.some.inj hsame)
    rw [if_pos hname, List.filter_singleton, hother]
    rfl

/-- Sections refer to parsers that are defined. -/
theorem defined_of_mem_parserNames (h : t.WellFormed) : ∀ s ∈ sections t,
    ∀ name ∈ s.parserNames, name = Spec.runtimeParser ∨ name ∈ LogParser.names t.parsers := by
  have hmetadata : metadataFilter.parserNames = [] := by decide
  refine forall_mem_sections nofun (fun r hr path hpath => ?_) (fun r hr p hp => ?_)
    (hmetadata ▸ List.forall_mem_nil _) nofun
  · exact List.forall_mem_singleton.2 (.inl rfl)
  · have hp := (h.routes r hr).parsers p hp
    exact List.forall_mem_singleton.2 (.inr (LogParser.mem_names.2 ⟨p, hp, rfl⟩))

/-- The tags that the blocks of routes are about, when every route has one at least. -/
theorem mem_patterns_iff {α : Type} (items : Route → List α) (block : Route → α → Section)
    (key : String) (hkey : ∀ r x, (block r x).value? key = some r.tagPattern)
    (hne : ∀ r ∈ rs, items r ≠ []) (pattern : Option String) :
    pattern ∈ (rs.flatMap fun r => (items r).map (block r)).map (·.value? key) ↔
      ∃ tag ∈ rs.map (·.tag), pattern = some (tag ++ ".*") := by
  simp only [List.mem_map, List.mem_flatMap, exists_exists_and_eq_and]
  constructor
  · rintro ⟨s, ⟨r, hr, x, hx, rfl⟩, rfl⟩
    exact ⟨r, hr, hkey r x⟩
  · rintro ⟨r, hr, rfl⟩
    obtain ⟨x, hx⟩ := List.exists_mem_of_ne_nil _ (hne r hr)
    exact ⟨block r x, ⟨r, hr, x, hx, rfl⟩, hkey r x⟩

end Collector

namespace Aggregator

/-- The blocks of the routes are about their patterns. -/
theorem arguments_marks (t : RoutingTable) :
    Mark.arguments "match" (marks t) = (t.routes.map (·.tag)).map (· ++ "**") := by
  have hstores (r : Route) :
      (r.outputs.flatMap fun _ => storeMarks).filterMap (Mark.argument? "match") = [] := by
    rw [List.filterMap_flatMap]
    exact List.flatMap_eq_nil_iff.2 fun _ _ => rfl
  have hroute (r : Route) : (routeMarks r).filterMap (Mark.argument? "match") = [r.tag ++ "**"] := by
    have hopen : Mark.argument? "match" (.enter "match" (matchPattern r)) = some (r.tag ++ "**") := rfl
    rw [routeMarks, List.filterMap_append, List.filterMap_cons_some hopen, hstores]
    rfl
  have hroutes : (t.routes.flatMap routeMarks).filterMap (Mark.argument? "match")
      = t.routes.map fun r => r.tag ++ "**" := by
    rw [List.filterMap_flatMap, ← List.flatMap_pure_eq_map]
    exact congrArg t.routes.flatMap (funext hroute)
  rw [Mark.arguments, marks, List.filterMap_append, hroutes, List.map_map]
  rfl

end Aggregator

/-! ## Agreement -/

namespace RoutingTable

variable {p : Pipeline} {v : ValidPipeline}

/-- **The texts of a valid pipeline agree with each other.**  Every parser that a section of the
collector's text refers to has one definition in the text that defines parsers.  There is one service,
and the file that it names for the definitions is among the collector's files and holds them.  The tags
of the inputs, those of the parser filters and those that the aggregator's blocks look for are the tags
of the routes, each with one block, and with one input and one parser filter at least. -/
theorem dialects_agree (hv : p.validate = .ok v) :
    (∀ s ∈ Section.readAll ((ofValid v).compile .collector), ∀ name ∈ s.parserNames,
      ((Section.readAll ((ofValid v).compile .parsers)).filter (Section.defines name)).length = 1) ∧
    (∃ file, ((Section.readAll ((ofValid v).compile .collector)).filter
        Section.isService).map (·.value? "Parsers_File") = [some file] ∧
      (ofValid v).collectorFiles.find? file = some ((ofValid v).compile .parsers)) ∧
    ((ofValid v).routes.map (·.tag)).Nodup ∧
    Mark.arguments "match" (Mark.readAll ((ofValid v).compile .aggregator))
      = ((ofValid v).routes.map (·.tag)).map (· ++ "**") ∧
    (∀ pattern, pattern ∈ ((Section.readAll ((ofValid v).compile .collector)).filter
        Section.isInput).map (·.value? "Tag") ↔
      ∃ tag ∈ (ofValid v).routes.map (·.tag), pattern = some (tag ++ ".*")) ∧
    (∀ pattern, pattern ∈ ((Section.readAll ((ofValid v).compile .collector)).filter
        (Section.isFilter "parser")).map (·.value? "Match") ↔
      ∃ tag ∈ (ofValid v).routes.map (·.tag), pattern = some (tag ++ ".*")) := by
  have h := wellFormed_ofValid hv
  rw [readAll_collector h, readAll_parsers h.oneLine_parsers, readAll_aggregator h,
    Aggregator.arguments_marks, Collector.filter_isInput_sections,
    Collector.filter_isParserFilter_sections]
  refine ⟨fun s hs name hname => ?_, ⟨Collector.parsersFile, ?_, ?_⟩, h.tags, rfl,
    Collector.mem_patterns_iff (·.paths) Collector.inputSection "Tag" (fun _ _ => rfl)
      fun r hr => (h.routes r hr).paths_ne,
    Collector.mem_patterns_iff (·.parsers) Collector.parserFilter "Match" (fun _ _ => rfl)
      fun r hr => (h.routes r hr).parsers_ne⟩
  · exact Collector.length_filter_defines h (Collector.defined_of_mem_parserNames h s hs name hname)
  · rw [Collector.filter_isService_sections]
    rfl
  · rw [find?_collectorFiles, if_pos rfl]

/-- Two tags, each with its block, though three rules ask for them. -/
theorem dialects_agree_teams : Pipeline.teams.validate = .ok Pipeline.teams.validated ∧
    Mark.arguments "match" (Mark.readAll ((ofValid Pipeline.teams.validated).compile .aggregator))
      = ["shop.web**", "shop.api**"] := by
  obtain ⟨-, -, -, hmatches, -, -⟩ := dialects_agree Pipeline.validate_teams
  have htags : (ofValid Pipeline.teams.validated).routes.map (·.tag) = ["shop.web", "shop.api"] := by
    decide +kernel
  rw [htags] at hmatches
  exact ⟨Pipeline.validate_teams, hmatches⟩

end RoutingTable

end LogOperator
