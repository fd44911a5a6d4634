import LogOperator.Proofs.Config.Sections

/-!
# LogOperator.Proofs.Config.Patterns

Where the patterns of parsers go.  The file that defines the parsers determines them, as long as they
are of one line; the other configuration texts only tell the names of parsers:

* `Collector.parsers_inj_of_render` — the definitions of parsers, read back;
* `RoutingTable.compile_of_names` — the texts that do not depend on patterns;
* `RoutingTable.collectorFiles_ne_iff` — of the collector's files, a change of patterns changes the
  definitions of parsers and nothing else.
-/

namespace LogOperator

/-! ## The definitions of parsers -/

namespace Collector

/-- The section that defines a parser tells its name and its pattern. -/
theorem parserSection_inj {p q : LogParser} (h : parserSection p = parserSection q) : p = q := by
  obtain ⟨name, pattern⟩ := p
  obtain ⟨name', pattern'⟩ := q
  simpa [parserSection] using h

/-- **The file that defines parsers determines them.** -/
theorem parsers_inj_of_render {t t' : RoutingTable} (ht : ∀ p ∈ t.parsers, p.OneLine)
    (ht' : ∀ p ∈ t'.parsers, p.OneLine)
    (h : Section.render (parserSections t) = Section.render (parserSections t')) :
    t.parsers = t'.parsers := by
  have hsections : parserSections t = parserSections t' := by
    rw [← RoutingTable.readAll_parsers ht, ← RoutingTable.readAll_parsers ht']
    exact congrArg Section.readAll h
  have hdefined : t.parsers.map parserSection = t'.parsers.map parserSection :=
    List.append_cancel_right hsections
  exact (List.map_inj_right fun _ _ => parserSection_inj).1 hdefined

end Collector

/-! ## Texts that tell names only -/

namespace Route

variable {ps qs : List LogParser} {tag : String} {rules : List WatchRule}

/-- Looking a parser up by its name only tells whether the name is there. -/
theorem map_name_find? (ps : List LogParser) (name : String) :
    (ps.find? (·.name = name)).map (·.name) = (LogParser.names ps).find? (· = name) := by
  rw [LogParser.names, List.find?_map]
  rfl

/-- The parsers of a route are looked up by their names. -/
theorem names_ofRules (h : LogParser.names qs = LogParser.names ps) :
    LogParser.names (ofRules qs tag rules).parsers
      = LogParser.names (ofRules ps tag rules).parsers := by
  have hnames (ps : List LogParser) : LogParser.names (ofRules ps tag rules).parsers
      = (Spec.distinct (rules.flatMap (·.parsers))).filterMap fun name =>
          (LogParser.names ps).find? (· = name) := by
    rw [LogParser.names, ofRules, List.map_filterMap]
    simp only [map_name_find?]
  rw [hnames, hnames, h]

end Route

namespace Collector

variable {r r' : Route}

/-- The filters of a route only tell the names of its parsers. -/
theorem map_parserFilter (htag : r'.tag = r.tag)
    (hnames : LogParser.names r'.parsers = LogParser.names r.parsers) :
    r'.parsers.map (parserFilter r') = r.parsers.map (parserFilter r) := by
  have hfilter (r : Route) : r.parsers.map (parserFilter r)
      = (LogParser.names r.parsers).map fun name => parserFilter r ⟨name, ""⟩ := by
    rw [LogParser.names, List.map_map]
    rfl
  have hpattern : r'.tagPattern = r.tagPattern := congrArg (· ++ ".*") htag
  rw [hfilter, hfilter, hnames]
  simp only [parserFilter, hpattern]

/-- The main file only tells the names of parsers. -/
theorem sections_of_names {s : Spec} {ps : List LogParser}
    (h : LogParser.names ps = LogParser.names s.parsers) :
    sections (.ofSpec { s with parsers := ps }) = sections (.ofSpec s) := by
  have hfilters : ((RoutingTable.ofSpec { s with parsers := ps }).routes.flatMap fun r =>
        r.parsers.map (parserFilter r))
      = (RoutingTable.ofSpec s).routes.flatMap fun r => r.parsers.map (parserFilter r) := by
    simp only [RoutingTable.ofSpec, List.flatMap_map]
    exact congrArg (s.tags.flatMap ·) (funext fun tag =>
      map_parserFilter rfl (Route.names_ofRules h))
  have hinputs : ((RoutingTable.ofSpec { s with parsers := ps }).routes.flatMap fun r =>
        r.paths.map (inputSection r))
      = (RoutingTable.ofSpec s).routes.flatMap fun r => r.paths.map (inputSection r) := by
    simp only [RoutingTable.ofSpec, List.flatMap_map]
    rfl
  unfold sections
  rw [hfilters, hinputs]
  rfl

end Collector

namespace RoutingTable

variable {s : Spec} {ps : List LogParser}

/-- Only the definitions of parsers tell their patterns. -/
theorem compile_of_names (h : LogParser.names ps = LogParser.names s.parsers) {d : Dialect}
    (hd : d ≠ .parsers) :
    (ofSpec { s with parsers := ps }).compile d = (ofSpec s).compile d := by
  cases d with
  | collector => simp only [compile, Collector.sections_of_names h]
  | parsers => contradiction
  | aggregator =>
      simp only [compile, Aggregator.blocks, ofSpec, List.map_map]
      rfl

/-- The collector has two files: its parsers and its main file. -/
theorem find?_collectorFiles (t : RoutingTable) (name : String) : t.collectorFiles.find? name =
    if Collector.parsersFile = name then some (t.compile .parsers)
    else if Collector.mainFile = name then some (t.compile .collector) else none := by
  simp only [collectorFiles, files, Dict.ofList, List.map_cons, List.map_nil, List.foldl_cons,
    List.foldl_nil, Dict.find?_insert, Dict.find?_empty]
  rfl

/-- The aggregator does not look at the patterns of parsers. -/
theorem aggregatorFiles_of_names (h : LogParser.names ps = LogParser.names s.parsers) :
    (ofSpec { s with parsers := ps }).aggregatorFiles = (ofSpec s).aggregatorFiles := by
  have htext := compile_of_names h (d := .aggregator) nofun
  simp only [aggregatorFiles, files, List.map_cons, List.map_nil, htext]

/-- **Of the collector's files, new patterns change the definitions of parsers, and no other.** -/
theorem collectorFiles_ne_iff (h : LogParser.names ps = LogParser.names s.parsers)
    (hne : ps ≠ s.parsers) (hs : ∀ p ∈ s.parsers, p.OneLine) (hps : ∀ p ∈ ps, p.OneLine)
    (name : String) : (ofSpec { s with parsers := ps }).collectorFiles.find? name
        ≠ (ofSpec s).collectorFiles.find? name ↔ name = Collector.parsersFile := by
  rw [find?_collectorFiles, find?_collectorFiles, compile_of_names h (d := .collector) nofun]
  by_cases hname : Collector.parsersFile = name
  · rw [if_pos hname, if_pos hname]
    refine ⟨fun _ => hname.symm, fun _ hfile => hne ?_⟩
    have htext : Section.render (Collector.parserSections (ofSpec { s with parsers := ps }))
        = Section.render (Collector.parserSections (ofSpec s)) := Option.some.inj hfile
    exact Collector.parsers_inj_of_render hps hs htext
  · rw [if_neg hname, if_neg hname]
    exact ⟨fun hsame => absurd rfl hsame, fun h => absurd h.symm hname⟩

end RoutingTable

end LogOperator
