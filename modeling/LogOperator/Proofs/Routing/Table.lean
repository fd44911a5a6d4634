import LogOperator.Proofs.Pipeline.WellFormed
import LogOperator.Proofs.Text.Lines
import LogOperator.Routing.Table

/-!
# LogOperator.Proofs.Routing.Table

What the routing table of a valid pipeline can be relied on for (`RoutingTable.WellFormed`).  All its texts
are of one line, every route has a source and a parser that the table defines, and tags tell the routes
apart, also as beginnings of one another:

* `RoutingTable.wellFormed_ofSpec` — the table of a well-formed specification;
* `RoutingTable.wellFormed_ofValid` — the table of a valid pipeline.
-/

namespace LogOperator

open Text

/-! ## Well-formed tables -/

/-- Name and pattern are of one line. -/
structure LogParser.OneLine (p : LogParser) : Prop where
  name : Text.OneLine p.name
  pattern : Text.OneLine p.pattern

theorem LogParser.WellFormed.oneLine {p : LogParser} (h : p.WellFormed) : p.OneLine where
  name := oneLine_of_isToken h.token
  pattern := oneLine_of_hasControl h.pattern

/-- The texts of a route are of one line. -/
structure Route.OneLine (r : Route) : Prop where
  tag : Text.OneLine r.tag
  paths : ∀ path ∈ r.paths, Text.OneLine path
  parsers : ∀ p ∈ r.parsers, p.OneLine
  outputs : ∀ o ∈ r.outputs, Text.OneLine o.indexPattern

/-- A route has a token as its tag, a source, and a parser, all of them defined. -/
structure Route.WellFormed (defined : List LogParser) (r : Route) : Prop where
  oneLine : r.OneLine
  token : isToken r.tag = true
  paths_ne : r.paths ≠ []
  parsers_ne : r.parsers ≠ []
  parsers : ∀ p ∈ r.parsers, p ∈ defined

/-- Parsers and routes are well-formed, and no tag is met twice or starts with another one. -/
structure RoutingTable.WellFormed (t : RoutingTable) : Prop where
  logLevel : t.logLevel = collectorLogLevel
  logFile : Text.OneLine t.logFile
  parsers : ∀ p ∈ t.parsers, p.WellFormed
  names : (LogParser.names t.parsers).Nodup
  routes : ∀ r ∈ t.routes, r.WellFormed t.parsers
  tags : (t.routes.map (·.tag)).Nodup
  apart : ∀ r ∈ t.routes, ∀ r' ∈ t.routes, r'.tag.toList <+: r.tag.toList → r'.tag = r.tag

/-! ## Lists without repetitions -/

namespace Spec

theorem nodup_distinct {α : Type} [DecidableEq α] (l : List α) : (distinct l).Nodup := by
  match l with
  | [] => exact List.nodup_nil
  | a :: l =>
      rw [distinct, List.eraseDups_cons, List.nodup_cons, List.mem_eraseDups]
      exact ⟨by simp, nodup_distinct (l.filter fun b => !b == a)⟩
termination_by l.length
decreasing_by exact Nat.lt_succ_of_le (List.length_filter_le _ _)

theorem distinct_ne_nil {α : Type} [DecidableEq α] {l : List α} (h : l ≠ []) : distinct l ≠ [] := by
  obtain ⟨a, ha⟩ := List.exists_mem_of_ne_nil l h
  exact List.ne_nil_of_mem (mem_distinct.2 ha)

end Spec

/-! ## Parsers -/

/-- A parser that is defined is found by its name. -/
theorem LogParser.exists_find?_of_mem_names {ps : List LogParser} {name : String}
    (h : name ∈ names ps) : ∃ p, ps.find? (·.name = name) = some p ∧ p.name = name := by
  obtain ⟨p, hp, hname⟩ := mem_names.1 h
  have hfound : (ps.find? (·.name = name)).isSome = true :=
    List.find?_isSome.2 ⟨p, hp, decide_eq_true hname⟩
  obtain ⟨q, hq⟩ := Option.isSome_iff_exists.1 hfound
  exact ⟨q, hq, by simpa using List.find?_some hq⟩

/-! ## Rules -/

namespace WatchRule

variable {r : WatchRule} {defined : List String}

/-- A rule routes under a token: the tag it asks for or its namespace. -/
theorem WellFormed.isToken_effectiveTag (h : r.WellFormed defined) :
    isToken r.effectiveTag = true := by
  unfold effectiveTag
  split
  · exact isToken_of_isDnsLabel h.ns
  · next hne => exact h.tag hne

theorem globs_ne_nil (r : WatchRule) : r.globs ≠ [] := by
  unfold globs
  split
  · exact List.cons_ne_nil _ _
  · next hne => simpa using hne

/-- The globs of an accepted rule are single lines. -/
theorem WellFormed.oneLine_of_mem_globs (h : r.WellFormed defined) :
    ∀ path ∈ r.globs, Text.OneLine path := by
  have hglob {pod : String} (hpod : Text.OneLine pod) : Text.OneLine (r.glob pod) := by
    have hns := oneLine_of_isToken (isToken_of_isDnsLabel h.ns)
    have hfixed : Text.OneLine (containerLogDir ++ "/") ∧ Text.OneLine "*_" ∧
        Text.OneLine "_*" := by decide
    exact (((hfixed.1.append hpod).append hfixed.2.1).append hns).append hfixed.2.2
  unfold globs
  split
  · exact List.forall_mem_singleton.2 (hglob (by decide))
  · exact List.forall_mem_map.2 fun d hd => hglob (oneLine_of_isDnsSubdomain (h.deployments d hd))

end WatchRule

/-! ## Routes -/

namespace Route

variable {ps : List LogParser} {tag : String} {rules : List WatchRule}

/-- A resolved output has the index that was asked for, or the tag. -/
theorem indexPattern_resolve (tag : String) (o : Output) :
    (o.resolve tag).indexPattern = o.indexPattern ∨ (o.resolve tag).indexPattern = tag := by
  unfold Output.resolve
  split
  · exact .inr rfl
  · exact .inl rfl

theorem sink_resolve (tag : String) (o : Output) : (o.resolve tag).sink = o.sink := by
  unfold Output.resolve
  split <;> rfl

/-- A route uses parsers that are defined, and no others. -/
theorem mem_parsers_ofRules {p : LogParser} (h : p ∈ (ofRules ps tag rules).parsers) : p ∈ ps := by
  obtain ⟨name, -, hp⟩ := List.mem_filterMap.1 h
  exact List.mem_of_find?_eq_some hp

/-- The route of accepted rules is well-formed. -/
theorem wellFormed_ofRules (hne : rules ≠ [])
    (hrules : ∀ r ∈ rules, r.WellFormed (LogParser.names ps)) (htag : isToken tag = true)
    (hps : ∀ p ∈ ps, p.WellFormed) : (ofRules ps tag rules).WellFormed ps where
  oneLine := {
    tag := oneLine_of_isToken htag
    paths := fun path hpath => by
      obtain ⟨r, hr, hpath⟩ := List.mem_flatMap.1 (Spec.mem_distinct.1 hpath)
      exact (hrules r hr).oneLine_of_mem_globs path hpath
    parsers := fun p hp => (hps p (mem_parsers_ofRules hp)).oneLine
    outputs := fun o ho => by
      obtain ⟨asked, hasked, rfl⟩ := List.mem_map.1 (Spec.mem_distinct.1 ho)
      obtain ⟨r, hr, hasked⟩ := List.mem_flatMap.1 hasked
      rcases indexPattern_resolve tag asked with hsame | hsame
      · rw [hsame]
        exact oneLine_of_hasBlankOrControl ((hrules r hr).outputs asked hasked)
      · rw [hsame]
        exact oneLine_of_isToken htag }
  token := htag
  paths_ne := by
    obtain ⟨r, hr⟩ := List.exists_mem_of_ne_nil rules hne
    obtain ⟨path, hpath⟩ := List.exists_mem_of_ne_nil _ r.globs_ne_nil
    exact Spec.distinct_ne_nil (List.ne_nil_of_mem (List.mem_flatMap.2 ⟨r, hr, hpath⟩))
  parsers_ne := by
    -- the first parser of any rule is defined, so it is found
    obtain ⟨r, hr⟩ := List.exists_mem_of_ne_nil rules hne
    obtain ⟨name, hname⟩ := List.exists_mem_of_ne_nil _ (hrules r hr).parsers_ne
    obtain ⟨p, hp, -⟩ := LogParser.exists_find?_of_mem_names ((hrules r hr).parsers name hname)
    have hmem : p ∈ (ofRules ps tag rules).parsers := List.mem_filterMap.2
      ⟨name, Spec.mem_distinct.2 (List.mem_flatMap.2 ⟨r, hr, hname⟩), hp⟩
    exact List.ne_nil_of_mem hmem
  parsers := fun _ => mem_parsers_ofRules

end Route

/-! ## Tables -/

namespace RoutingTable

variable {s : Spec} {p : Pipeline} {v : ValidPipeline}

/-- The tags of the routes are those of the rules. -/
theorem tags_ofSpec (s : Spec) : (ofSpec s).routes.map (·.tag) = s.tags := by
  simp only [ofSpec, List.map_map]
  exact List.map_id _

theorem isToken_of_mem_tags (h : s.WellFormed) {tag : String} (htag : tag ∈ s.tags) :
    isToken tag = true := by
  obtain ⟨r, hr, rfl⟩ := List.mem_map.1 (Spec.mem_distinct.1 htag)
  exact (h.watch r hr).isToken_effectiveTag

/-- **The table of an accepted specification is well-formed.** -/
theorem wellFormed_ofSpec (h : s.WellFormed) : (ofSpec s).WellFormed where
  logLevel := rfl
  logFile := oneLine_of_hasControl h.logfile
  parsers := h.parsers
  names := h.names
  routes := by
    refine List.forall_mem_map.2 fun tag htag => Route.wellFormed_ofRules ?_ ?_ ?_ h.parsers
    · obtain ⟨r, hr, rfl⟩ := List.mem_map.1 (Spec.mem_distinct.1 htag)
      exact List.ne_nil_of_mem (List.mem_filter.2 ⟨hr, decide_eq_true rfl⟩)
    · exact fun r hr => h.watch r (List.mem_filter.1 hr).1
    · exact isToken_of_mem_tags h htag
  tags := by
    rw [tags_ofSpec]
    exact Spec.nodup_distinct _
  apart := by
    have hmem : ∀ r ∈ (ofSpec s).routes, r.tag ∈ s.tags := fun r hr => by
      rw [← tags_ofSpec]
      exact List.mem_map.2 ⟨r, hr, rfl⟩
    have hne : ∀ tag ∈ s.tags, tag ≠ "" := by
      rintro tag htag rfl
      exact absurd (isToken_of_mem_tags h htag) (by decide)
    exact fun r hr r' hr' => h.tags r.tag (hmem r hr) r'.tag (hmem r' hr') (hne _ (hmem r hr))
      (hne _ (hmem r' hr'))

/-- **The routing table of a valid pipeline is well-formed.** -/
theorem wellFormed_ofValid (hv : p.validate = .ok v) : (ofValid v).WellFormed :=
  wellFormed_ofSpec (Pipeline.wellFormed_of_validate hv)

end RoutingTable

end LogOperator
