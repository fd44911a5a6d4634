import LogOperator.Proofs.Config.Directives
import LogOperator.Proofs.Config.Patterns
import LogOperator.Proofs.Desired.Slot
import Mathlib.Data.List.Forall2

/-!
# LogOperator.Proofs.Config.Determination

What the configuration files tell of a routing table, and that they tell nothing else.  Two tables are
the same to a reader (`RoutingTable.Same`) if they agree on the log file, the metadata, the parsers and,
route by route, on tag, paths, names of parsers and outputs, where the index of an output counts only
for the search engine:

* `Aggregator.routeLines_eq_iff` — the aggregator's block of a route tells its tag and its outputs;
* `Collector.same_of_sections` — the collector's sections tell the rest, route by route, because no two
  routes share a tag;
* `RoutingTable.files_eq_iff_same` — equal files are those of tables that are the same;
* `RoutingTable.files_tell_routing` — and so is equal data of ConfigMaps.
-/

namespace LogOperator

/-! ## What readers can tell apart -/

/-- The outputs have one sink and, at the search engine, one index. -/
structure Output.Same (o o' : Output) : Prop where
  sink : o.sink = o'.sink
  indexPattern : o.sink = .searchEngine → o.indexPattern = o'.indexPattern

/-- The routes have the same tag, the same paths, parsers of the same names, and the same outputs. -/
structure Route.Same (r r' : Route) : Prop where
  tag : r.tag = r'.tag
  paths : r.paths = r'.paths
  parsers : LogParser.names r.parsers = LogParser.names r'.parsers
  outputs : List.Forall₂ Output.Same r.outputs r'.outputs

instance : DecidableRel Output.Same := fun o o' =>
  decidable_of_iff (o.sink = o'.sink ∧ (o.sink = .searchEngine → o.indexPattern = o'.indexPattern))
    ⟨fun h => ⟨h.1, h.2⟩, fun h => ⟨h.sink, h.indexPattern⟩⟩

instance : DecidableRel Route.Same := fun r r' =>
  decidable_of_iff (r.tag = r'.tag ∧ r.paths = r'.paths ∧
      LogParser.names r.parsers = LogParser.names r'.parsers ∧
      List.Forall₂ Output.Same r.outputs r'.outputs)
    ⟨fun h => ⟨h.1, h.2.1, h.2.2.1, h.2.2.2⟩, fun h => ⟨h.tag, h.paths, h.parsers, h.outputs⟩⟩

/-- The tables have the same log file, metadata flag, parsers and routes, in the same order. -/
structure RoutingTable.Same (t t' : RoutingTable) : Prop where
  logFile : t.logFile = t'.logFile
  includeMetadata : t.includeMetadata = t'.includeMetadata
  parsers : t.parsers = t'.parsers
  routes : List.Forall₂ Route.Same t.routes t'.routes

instance : DecidableRel RoutingTable.Same := fun t t' =>
  decidable_of_iff (t.logFile = t'.logFile ∧ t.includeMetadata = t'.includeMetadata ∧
      t.parsers = t'.parsers ∧ List.Forall₂ Route.Same t.routes t'.routes)
    ⟨fun h => ⟨h.1, h.2.1, h.2.2.1, h.2.2.2⟩,
      fun h => ⟨h.logFile, h.includeMetadata, h.parsers, h.routes⟩⟩

/-! ## The aggregator's blocks -/

namespace Aggregator

variable {o o' : Output} {os os' : List Output} {r r' : Route} {rs rs' : List Route}

/-- The parameters of an output tell what matters of it. -/
theorem parameters_eq_iff : parameters o = parameters o' ↔ o.Same o' := by
  obtain ⟨sink, index⟩ := o
  obtain ⟨sink', index'⟩ := o'
  constructor
  · intro h
    cases sink with
    | searchEngine =>
        cases sink' with
        | searchEngine =>
            have hindex : index = index' := by simpa [parameters] using h
            exact ⟨rfl, fun _ => hindex⟩
        | stdout => simp [parameters] at h
    | stdout =>
        cases sink' with
        | searchEngine => simp [parameters] at h
        | stdout => exact ⟨rfl, nofun⟩
  · rintro ⟨rfl, hindex⟩
    cases sink with
    | searchEngine => rw [show index = index' from hindex rfl]
    | stdout => rfl

/-- Parameters are indented further than the lines that open and close their output. -/
theorem indent_of_mem_parameters {l : String} (h : l ∈ (parameters o).map ("    " ++ ·)) :
    l.toList[2]? = some ' ' := by
  obtain ⟨s, -, rfl⟩ := List.mem_map.1 h
  simp [String.toList_append]

/-- No parameter looks like the end of a block. -/
theorem close_not_mem_parameters (o : Output) :
    "  </store>" ∉ "  <store>" :: (parameters o).map ("    " ++ ·) := by
  intro h
  rcases List.mem_cons.1 h with h | h
  · exact absurd h (by decide)
  · exact absurd (indent_of_mem_parameters h) (by decide)

theorem store_append (o : Output) (ls : List String) : store o ++ ls =
    ("  <store>" :: (parameters o).map ("    " ++ ·)) ++ "  </store>" :: ls := by
  simp [store]

/-- Outputs that are the same to the aggregator are written alike. -/
theorem store_eq_of_same (h : o.Same o') : store o = store o' := by
  rw [store, store, parameters_eq_iff.2 h]

/-- The lines of outputs, read from the front: each output ends at the first line that closes one. -/
theorem flatMap_store_eq_iff :
    os.flatMap store = os'.flatMap store ↔ List.Forall₂ Output.Same os os' := by
  constructor
  · intro h
    induction os generalizing os' with
    | nil =>
        cases os' with
        | nil => exact .nil
        | cons o' os' => simp [store] at h
    | cons o os ih =>
        cases os' with
        | nil => simp [store] at h
        | cons o' os' =>
            rw [List.flatMap_cons, List.flatMap_cons, store_append, store_append] at h
            obtain ⟨hfirst, hrest⟩ := Text.append_cons_inj_of_not_mem_left
              (close_not_mem_parameters o) (close_not_mem_parameters o') h
            have hparameters : (parameters o).map ("    " ++ ·) = (parameters o').map ("    " ++ ·) :=
              (List.cons.inj hfirst).2
            refine .cons (parameters_eq_iff.1 ?_) (ih hrest)
            exact (List.map_inj_right fun _ _ => String.append_right_inj _ |>.1).1 hparameters
  · intro h
    induction h with
    | nil => rfl
    | cons hsame _ ih => rw [List.flatMap_cons, List.flatMap_cons, store_eq_of_same hsame, ih]

/-- **The block of a route tells its tag and its outputs.** -/
theorem routeLines_eq_iff : routeLines r = routeLines r' ↔
    r.tag = r'.tag ∧ List.Forall₂ Output.Same r.outputs r'.outputs := by
  rw [← flatMap_store_eq_iff]
  constructor
  · intro h
    have hlines := List.append_cancel_right h
    simp only [List.cons_append, List.nil_append, List.cons.injEq, true_and] at hlines
    exact ⟨by simpa using hlines.1, hlines.2⟩
  · rintro ⟨htag, hstores⟩
    rw [routeLines, routeLines, htag, hstores]

/-- The blocks of a text tell the tags of the routes and what matters of their outputs. -/
theorem blocks_eq_iff {t t' : RoutingTable} : blocks t = blocks t' ↔
    List.Forall₂ (fun r r' => r.tag = r'.tag ∧ List.Forall₂ Output.Same r.outputs r'.outputs)
      t.routes t'.routes := by
  have hroutes : t.routes.map routeLines = t'.routes.map routeLines ↔
      List.Forall₂ (fun r r' => routeLines r = routeLines r') t.routes t'.routes := by
    rw [← List.forall₂_eq_eq_eq, List.forall₂_map_left_iff, List.forall₂_map_right_iff]
  simp only [blocks, List.cons.injEq, true_and, hroutes, routeLines_eq_iff]

end Aggregator

/-! ## The collector's sections -/

namespace Collector

variable {r r' : Route} {rs rs' : List Route} {t t' : RoutingTable}

/-- Where a list changes from elements of one key to elements of other keys. -/
theorem append_inj_of_key {α κ : Type} [DecidableEq κ] {key : α → κ} {k : κ} {xs xs' ys ys' : List α}
    (hx : ∀ x ∈ xs, key x = k) (hx' : ∀ x ∈ xs', key x = k) (hy : ∀ y ∈ ys, key y ≠ k)
    (hy' : ∀ y ∈ ys', key y ≠ k) (h : xs ++ ys = xs' ++ ys') : xs = xs' ∧ ys = ys' := by
  have hfilter {xs ys : List α} (hx : ∀ x ∈ xs, key x = k) (hy : ∀ y ∈ ys, key y ≠ k) :
      (xs ++ ys).filter (key · = k) = xs := by
    rw [List.filter_append, List.filter_eq_self.2 (by simpa using hx),
      List.filter_eq_nil_iff.2 (by simpa using hy), List.append_nil]
  have hfirst : xs = xs' := by rw [← hfilter hx hy, h, hfilter hx' hy']
  subst hfirst
  exact ⟨rfl, List.append_cancel_left h⟩

/-- The pattern of a tag tells the tag. -/
theorem tagPattern_eq_iff : r.tagPattern = r'.tagPattern ↔ r.tag = r'.tag := by
  simp [Route.tagPattern]

/-- The blocks of a route, followed by those of routes with other tags, tell the values of the
route's items. -/
theorem flatMap_cons_inj {α : Type} (items : Route → List α) (block : Route → α → Section)
    (key valueKey : String) (value : α → String)
    (hkey : ∀ r x, (block r x).value? key = some r.tagPattern)
    (hvalue : ∀ r x, (block r x).value? valueKey = some (value x))
    (htag : r.tag = r'.tag) (hrs : r.tag ∉ rs.map (·.tag)) (hrs' : r'.tag ∉ rs'.map (·.tag))
    (h : (r :: rs).flatMap (fun r => (items r).map (block r))
      = (r' :: rs').flatMap fun r => (items r).map (block r)) :
    (items r).map value = (items r').map value ∧
      rs.flatMap (fun r => (items r).map (block r)) = rs'.flatMap fun r => (items r).map (block r) := by
  have hpattern : r'.tagPattern = r.tagPattern := tagPattern_eq_iff.2 htag.symm
  have hown (r : Route) : ∀ s ∈ (items r).map (block r), s.value? key = some r.tagPattern :=
    List.forall_mem_map.2 fun x _ => hkey r x
  have hother {r : Route} {rs : List Route} (hrs : r.tag ∉ rs.map (·.tag)) :
      ∀ s ∈ rs.flatMap (fun r => (items r).map (block r)), s.value? key ≠ some r.tagPattern := by
    intro s hs hsame
    obtain ⟨r', hr', hs⟩ := List.mem_flatMap.1 hs
    rw [hown r' s hs, Option.some.injEq, tagPattern_eq_iff] at hsame
    exact hrs (List.mem_map.2 ⟨r', hr', hsame⟩)
  have hvalues (r : Route) :
      ((items r).map (block r)).map (·.value? valueKey) = ((items r).map value).map some := by
    rw [List.map_map, List.map_map]
    exact List.map_congr_left fun x _ => hvalue r x
  obtain ⟨hfirst, hrest⟩ :=
    append_inj_of_key (hown r) (hpattern ▸ hown r') (hother hrs) (hpattern ▸ hother hrs') h
  refine ⟨?_, hrest⟩
  have hsome := congrArg (List.map (·.value? valueKey)) hfirst
  rw [hvalues, hvalues] at hsome
  exact (List.map_inj_right fun _ _ => Option.some.inj).1 hsome

/-- **The sections of routes tell their paths and the names of their parsers**, once it is known
which tags there are. -/
theorem same_of_sections (hnodup : (rs.map (·.tag)).Nodup)
    (h : List.Forall₂ (fun r r' => r.tag = r'.tag ∧ List.Forall₂ Output.Same r.outputs r'.outputs)
      rs rs')
    (hinputs : inputs rs = inputs rs') (hfilters : parserFilters rs = parserFilters rs') :
    List.Forall₂ Route.Same rs rs' := by
  induction h with
  | nil => exact .nil
  | @cons r r' rs rs' hhead htail ih =>
      obtain ⟨htag, houtputs⟩ := hhead
      obtain ⟨hnew, hnodup⟩ := List.nodup_cons.1 hnodup
      have htags : rs.map (·.tag) = rs'.map (·.tag) := by
        rw [← List.forall₂_eq_eq_eq, List.forall₂_map_left_iff, List.forall₂_map_right_iff]
        exact htail.imp fun _ _ hsame => hsame.1
      have hnew' : r'.tag ∉ rs'.map (·.tag) := by
        rw [← htags, ← htag]
        exact hnew
      obtain ⟨hpaths, hinputs⟩ := flatMap_cons_inj (·.paths) inputSection "Tag" "Path" id
        (fun _ _ => rfl) (fun _ _ => rfl) htag hnew hnew' hinputs
      obtain ⟨hnames, hfilters⟩ := flatMap_cons_inj (·.parsers) parserFilter "Match" "Parser" (·.name)
        (fun _ _ => rfl) (fun _ _ => rfl) htag hnew hnew' hfilters
      rw [List.map_id, List.map_id] at hpaths
      exact .cons ⟨htag, hpaths, hnames, houtputs⟩ (ih hnodup hinputs hfilters)

/-- Routes that are the same have the same sections. -/
theorem sections_of_same (h : List.Forall₂ Route.Same rs rs') :
    inputs rs = inputs rs' ∧ parserFilters rs = parserFilters rs' := by
  induction h with
  | nil => exact ⟨rfl, rfl⟩
  | @cons r r' rs rs' hsame _ ih =>
      have hpattern := tagPattern_eq_iff.2 hsame.tag
      have hinputs : r.paths.map (inputSection r) = r'.paths.map (inputSection r') := by
        rw [hsame.paths]
        exact List.map_congr_left fun path _ => by rw [inputSection, inputSection, hpattern]
      have hfilters : r.parsers.map (parserFilter r) = r'.parsers.map (parserFilter r') :=
        map_parserFilter hsame.tag hsame.parsers
      simp only [inputs, parserFilters, List.flatMap_cons] at ih ⊢
      rw [hinputs, hfilters, ih.1, ih.2]
      exact ⟨rfl, rfl⟩

/-- Tables that are the same to the collector have the same sections. -/
theorem sections_eq_of_same (h : t.WellFormed) (h' : t'.WellFormed) (hsame : t.Same t') :
    sections t = sections t' := by
  obtain ⟨hinputs, hfilters⟩ := sections_of_same hsame.routes
  rw [sections_eq, sections_eq, hinputs, hfilters, hsame.includeMetadata]
  simp only [serviceSection, h.logLevel, h'.logLevel, hsame.logFile]

end Collector

/-! ## The files -/

namespace RoutingTable

variable {t t' : RoutingTable}

/-- The main file of the aggregator holds the text of its dialect. -/
theorem find?_aggregatorFiles (t : RoutingTable) :
    t.aggregatorFiles.find? Aggregator.mainFile = some (t.compile .aggregator) := by
  simp only [aggregatorFiles, files, Dict.ofList, List.map_cons, List.map_nil, List.foldl_cons,
    List.foldl_nil, Dict.find?_insert]
  rfl

/-- The texts of a component's files are those of its dialects. -/
theorem files_eq_iff_compile : t.collectorFiles = t'.collectorFiles ∧
      t.aggregatorFiles = t'.aggregatorFiles ↔ ∀ d, t.compile d = t'.compile d := by
  constructor
  · rintro ⟨hcollector, haggregator⟩ d
    have hfile (name : String) := congrArg (Dict.find? · name) hcollector
    simp only [find?_collectorFiles] at hfile
    cases d with
    | collector => exact Option.some.inj (hfile Collector.mainFile)
    | parsers => exact Option.some.inj (hfile Collector.parsersFile)
    | aggregator =>
        have htext := congrArg (Dict.find? · Aggregator.mainFile) haggregator
        simp only [find?_aggregatorFiles] at htext
        exact Option.some.inj htext
  · intro h
    simp only [collectorFiles, aggregatorFiles, files, List.map_cons, List.map_nil, h, and_self]

/-- **The files determine the routing, and nothing else.** -/
theorem files_eq_iff_same (h : t.WellFormed) (h' : t'.WellFormed) :
    t.collectorFiles = t'.collectorFiles ∧ t.aggregatorFiles = t'.aggregatorFiles ↔ t.Same t' := by
  rw [files_eq_iff_compile]
  constructor
  · intro htexts
    have hsections : Collector.sections t = Collector.sections t' := by
      rw [← readAll_collector h, ← readAll_collector h', htexts]
    have hblocks : Aggregator.blocks t = Aggregator.blocks t' := by
      rw [← blocks_aggregator h, ← blocks_aggregator h', htexts]
    have hinputs := congrArg (List.filter Section.isInput) hsections
    have hfilters := congrArg (List.filter (Section.isFilter "parser")) hsections
    have hmetadata := congrArg (List.filter (Section.isFilter "kubernetes")) hsections
    rw [Collector.filter_isInput_sections, Collector.filter_isInput_sections] at hinputs
    rw [Collector.filter_isParserFilter_sections, Collector.filter_isParserFilter_sections] at hfilters
    rw [Collector.filter_isMetadataFilter_sections,
      Collector.filter_isMetadataFilter_sections] at hmetadata
    refine ⟨?_, ?_, ?_, ?_⟩
    · -- the service is the first section, and the log file one of its values
      have hservice := congrArg (·.head?.bind (·.value? "Log_File")) hsections
      exact Option.some.inj hservice
    · cases ht : t.includeMetadata <;> cases ht' : t'.includeMetadata <;>
        simp_all [Collector.metadataFilters]
    · exact Collector.parsers_inj_of_render h.oneLine_parsers h'.oneLine_parsers (htexts .parsers)
    · exact Collector.same_of_sections h.tags (Aggregator.blocks_eq_iff.1 hblocks) hinputs hfilters
  · intro hsame d
    cases d with
    | collector =>
        exact congrArg Section.render (Collector.sections_eq_of_same h h' hsame)
    | parsers =>
        have hsections : Collector.parserSections t = Collector.parserSections t' := by
          rw [Collector.parserSections, Collector.parserSections, hsame.parsers]
        exact congrArg Section.render hsections
    | aggregator =>
        have hblocks : Aggregator.blocks t = Aggregator.blocks t' :=
          Aggregator.blocks_eq_iff.2 (hsame.routes.imp fun _ _ h => ⟨h.tag, h.outputs⟩)
        simp only [compile, hblocks]

end RoutingTable

/-! ## The ConfigMaps -/

/-- The comparison of two ConfigMaps finds no difference exactly if their data is the same. -/
theorem Resource.drift_eq_none_iff {desired observed : Resource} (hk : desired.kind = .configMap)
    (hk' : observed.kind = .configMap) :
    desired.drift observed = .none ↔ desired.data? = observed.data? := by
  rw [drift_eq_none_iff_agrees (hk.trans hk'.symm), Agrees, hk]
  exact and_iff_left fun hw => absurd hw (by decide)

namespace RoutingTable

/-- **The files tell the routing, and so does the data of the ConfigMaps.**  The collector's and the
aggregator's files of two valid pipelines are the same, text by text, exactly if their routing tables
are the same to a reader.  So, beside the ConfigMaps that were made for the first pipeline, whatever
resource versions they have, those of the second one call for no update exactly then. -/
theorem files_tell_routing {p p' : Pipeline} {v v' : ValidPipeline} (hv : p.validate = .ok v)
    (hv' : p'.validate = .ok v') :
    ((ofValid v).collectorFiles = (ofValid v').collectorFiles ∧
        (ofValid v).aggregatorFiles = (ofValid v').aggregatorFiles ↔
      (ofValid v).Same (ofValid v')) ∧
    ∀ (e e' : Endpoint) (images images' : Images) (n n' : Nat),
      (Slot.collectorConfig.resource v' e' images').drift
          ((Slot.collectorConfig.resource v e images).stamp n) = .none ∧
        (Slot.aggregatorConfig.resource v' e' images').drift
          ((Slot.aggregatorConfig.resource v e images).stamp n') = .none ↔
      (ofValid v).Same (ofValid v') := by
  have hfiles := files_eq_iff_same (wellFormed_ofValid hv) (wellFormed_ofValid hv')
  refine ⟨hfiles, fun e e' images images' n n' => ?_⟩
  have hkind {k : Slot} (hk : k.kind = .configMap) (v : ValidPipeline) (e : Endpoint)
      (images : Images) : (k.resource v e images).kind = .configMap := by
    rw [Slot.kind_resource, hk]
  have hdrift {k : Slot} (hk : k.kind = .configMap) (n : Nat) :
      (k.resource v' e' images').drift ((k.resource v e images).stamp n) = .none ↔
        (k.resource v' e' images').data? = (k.resource v e images).data? := by
    rw [Resource.drift_eq_none_iff (hkind hk v' e' images')
      ((Resource.kind_stamp n _).trans (hkind hk v e images)), Resource.data?_stamp]
  have hcollector (v : ValidPipeline) (e : Endpoint) (images : Images) :
      (Slot.collectorConfig.resource v e images).data? = some (ofValid v).collectorFiles := rfl
  have haggregator (v : ValidPipeline) (e : Endpoint) (images : Images) :
      (Slot.aggregatorConfig.resource v e images).data? = some (ofValid v).aggregatorFiles := rfl
  rw [hdrift rfl, hdrift rfl, hcollector, hcollector, haggregator, haggregator, Option.some.injEq,
    Option.some.injEq, ← hfiles]
  exact and_congr eq_comm eq_comm

end RoutingTable

/-! ## Two teams, edited -/

namespace Pipeline

/-- The pipeline of two teams with another version and an index for records that are only printed. -/
def teamsNoted : Pipeline :=
  { teams with spec := { teams.spec with
      version := "7.17.0"
      watch :=
        [⟨"shop", "shop.web", ["api.v2", "cart"], ["nginx", "json"],
            [⟨.searchEngine, "shop.web"⟩, ⟨.stdout, "unread"⟩]⟩,
         ⟨"payments", "shop.api", [], ["json"], [⟨.searchEngine, "payments-*"⟩]⟩,
         ⟨"edge", "shop.web", [], ["json"], [⟨.stdout, "unread"⟩]⟩] } }

theorem validate_teamsNoted : teamsNoted.validate = .ok teamsNoted.validated :=
  validate_of_violations (by decide +kernel)

end Pipeline

namespace RoutingTable

/-- An index that no output reads is not in the files. -/
theorem files_tell_routing_teamsNoted :
    Pipeline.teams.validate = .ok Pipeline.teams.validated ∧
    Pipeline.teamsNoted.validate = .ok Pipeline.teamsNoted.validated ∧
    (ofValid Pipeline.teams.validated).routes ≠ (ofValid Pipeline.teamsNoted.validated).routes ∧
    (ofValid Pipeline.teams.validated).collectorFiles
      = (ofValid Pipeline.teamsNoted.validated).collectorFiles ∧
    (ofValid Pipeline.teams.validated).aggregatorFiles
      = (ofValid Pipeline.teamsNoted.validated).aggregatorFiles := by
  have hfiles := (files_tell_routing Pipeline.validate_teams Pipeline.validate_teamsNoted).1
  exact ⟨Pipeline.validate_teams, Pipeline.validate_teamsNoted, by decide +kernel,
    hfiles.2 (by decide +kernel)⟩

end RoutingTable

end LogOperator
