import LogOperator.Proofs.Config.References

/-!
# LogOperator.Proofs.Routing.Delivery

Where a record goes, by the texts that collector and aggregator run on.  The aggregator puts it into
every block whose pattern it fits, and the collector passes it through every parser filter whose pattern
it fits; the patterns are read off the texts:

* `RoutingTable.blockPatterns_compile`, `RoutingTable.mem_filterPatterns_compile` — they are those of the
  routes;
* `RoutingTable.routed_once` — a record of a route goes through this route and no other.
-/

namespace LogOperator

/-- The patterns that the blocks of an aggregator's text look for. -/
def Aggregator.blockPatterns (text : String) : List String :=
  Mark.arguments "match" (Mark.readAll text)

/-- The patterns that the parser filters of a collector's text look for. -/
def Collector.filterPatterns (text : String) : List String :=
  ((Section.readAll text).filter (Section.isFilter "parser")).filterMap (·.value? "Match")

namespace RoutingTable

open Aggregator (blockPatterns matchPattern)
open Collector (filterPatterns)

variable {t : RoutingTable} {r : Route} {record pattern : String} {p : Pipeline} {v : ValidPipeline}

/-! ## Patterns of a text -/

/-- **The blocks of the aggregator's text** look for the patterns of the routes, one each. -/
theorem blockPatterns_compile (h : t.WellFormed) :
    blockPatterns (t.compile .aggregator) = t.routes.map matchPattern := by
  rw [blockPatterns, readAll_aggregator h, Aggregator.arguments_marks, List.map_map]
  rfl

/-- **The parser filters of the collector's text** look for the patterns of the routes, each at least
once. -/
theorem mem_filterPatterns_compile (h : t.WellFormed) :
    pattern ∈ filterPatterns (t.compile .collector) ↔ ∃ r ∈ t.routes, r.tagPattern = pattern := by
  rw [filterPatterns, readAll_collector h, Collector.filter_isParserFilter_sections]
  simp only [List.mem_filterMap, Collector.parserFilters, List.mem_flatMap, List.mem_map]
  constructor
  · rintro ⟨s, ⟨r, hr, p, hp, rfl⟩, hs⟩
    exact ⟨r, hr, Option.some.inj hs⟩
  · rintro ⟨r, hr, rfl⟩
    obtain ⟨p, hp⟩ := List.exists_mem_of_ne_nil _ (h.routes r hr).parsers_ne
    exact ⟨_, ⟨r, hr, p, hp, rfl⟩, rfl⟩

/-- The blocks that take a record are those of the routes that take it. -/
theorem filter_blockPatterns (h : t.WellFormed) (record : String) :
    (blockPatterns (t.compile .aggregator)).filter (Text.covers · record)
      = (t.routes.filter (·.takes record)).map matchPattern := by
  rw [blockPatterns_compile h, List.filter_map]
  rfl

/-! ## Records -/

/-- A record of a route, by its tag and what follows it, is parsed and taken by this route. -/
theorem WellFormed.parses_own (h : t.WellFormed) (hr : r ∈ t.routes) (x : String) :
    r.parses (r.tag ++ "." ++ x) = true ∧ r.takes (r.tag ++ "." ++ x) = true := by
  have htoken := (h.routes r hr).token
  have hparses : r.parses (r.tag ++ "." ++ x) = true :=
    (Route.parses_iff htoken).2 ⟨x.toList, String.toList_append.symm⟩
  exact ⟨hparses, Route.takes_of_parses htoken hparses⟩

/-- Of the filters in the collector's text, a record that a route parses fits those of this route. -/
theorem WellFormed.covers_iff (h : t.WellFormed) (hr : r ∈ t.routes) (hparses : r.parses record = true)
    (hpattern : pattern ∈ filterPatterns (t.compile .collector)) :
    Text.covers pattern record = true ↔ pattern = r.tagPattern := by
  obtain ⟨r', hr', rfl⟩ := (mem_filterPatterns_compile h).1 hpattern
  refine ⟨fun hcovers => ?_, fun heq => ?_⟩
  · rw [h.eq_of_parses hr' hr hcovers hparses]
  · rw [heq]
    exact hparses

/-- **No record is routed twice or under another tag.**  In the routing table of a valid pipeline, a
record whose tag is that of a route, a dot and any text goes through the collector's filters of this
route alone and into the aggregator's block of this route alone; and whatever its tag is, a record goes
through the filters of one route at most and into the block of one route at most.  The same is said of
the texts that were made of the table: of the blocks in the aggregator's text such a record fits that of
its route, and of the filters in the collector's text those of its route, of which there is one. -/
theorem routed_once (hv : p.validate = .ok v) :
    (∀ r ∈ (ofValid v).routes, ∀ x : String,
      (ofValid v).routes.filter (·.takes (r.tag ++ "." ++ x)) = [r] ∧
      (ofValid v).routes.filter (·.parses (r.tag ++ "." ++ x)) = [r] ∧
      (blockPatterns ((ofValid v).compile .aggregator)).filter
        (Text.covers · (r.tag ++ "." ++ x)) = [r.tag ++ "**"] ∧
      r.tag ++ ".*" ∈ filterPatterns ((ofValid v).compile .collector) ∧
      ∀ pattern ∈ filterPatterns ((ofValid v).compile .collector),
        Text.covers pattern (r.tag ++ "." ++ x) = true ↔ pattern = r.tag ++ ".*") ∧
    ∀ record : String, ((ofValid v).routes.filter (·.takes record)).length ≤ 1 ∧
      ((ofValid v).routes.filter (·.parses record)).length ≤ 1 ∧
      ((blockPatterns ((ofValid v).compile .aggregator)).filter
        (Text.covers · record)).length ≤ 1 ∧
      ∀ pattern ∈ filterPatterns ((ofValid v).compile .collector),
        ∀ pattern' ∈ filterPatterns ((ofValid v).compile .collector),
          Text.covers pattern record = true → Text.covers pattern' record = true →
            pattern = pattern' := by
  have h := wellFormed_ofValid hv
  have htold (record : String) : ∀ r ∈ (ofValid v).routes, ∀ r' ∈ (ofValid v).routes,
      r.takes record = true → r'.takes record = true → r = r' :=
    fun r hr r' hr' => h.eq_of_takes hr hr'
  have htold' (record : String) : ∀ r ∈ (ofValid v).routes, ∀ r' ∈ (ofValid v).routes,
      r.parses record = true → r'.parses record = true → r = r' :=
    fun r hr r' hr' => h.eq_of_parses hr hr'
  refine ⟨fun r hr x => ?_, fun record => ?_⟩
  · obtain ⟨hparses, htakes⟩ := h.parses_own hr x
    have htaken := h.filter_eq_singleton (htold _) hr htakes
    refine ⟨htaken, h.filter_eq_singleton (htold' _) hr hparses, ?_,
      (mem_filterPatterns_compile h).2 ⟨r, hr, rfl⟩,
      fun pattern hpattern => h.covers_iff hr hparses hpattern⟩
    rw [filter_blockPatterns h, htaken]
    rfl
  · have htaken := h.length_filter_le_one (htold record)
    refine ⟨htaken, h.length_filter_le_one (htold' record), ?_, ?_⟩
    · rw [filter_blockPatterns h, List.length_map]
      exact htaken
    · intro pattern hpattern pattern' hpattern' hcovers hcovers'
      obtain ⟨r, hr, rfl⟩ := (mem_filterPatterns_compile h).1 hpattern
      exact ((h.covers_iff hr hcovers hpattern').1 hcovers').symm

/-- A record of one team's route whose tag ends like the other team's. -/
theorem routed_once_teams : Pipeline.teams.validate = .ok Pipeline.teams.validated ∧
    ∃ r ∈ (ofValid Pipeline.teams.validated).routes, r.tag = "shop.web" ∧
      (ofValid Pipeline.teams.validated).routes.filter (·.takes "shop.web.shop.api") = [r] ∧
      (ofValid Pipeline.teams.validated).routes.filter (·.parses "shop.web.shop.api") = [r] ∧
      (blockPatterns ((ofValid Pipeline.teams.validated).compile .aggregator)).filter
        (Text.covers · "shop.web.shop.api") = ["shop.web**"] := by
  have htag : "shop.web" ∈ Pipeline.teams.validated.spec.tags := by decide +kernel
  rw [← tags_ofSpec] at htag
  obtain ⟨r, hr, hweb⟩ := List.mem_map.1 htag
  obtain ⟨htaken, hparsed, hblocks, -⟩ := (routed_once Pipeline.validate_teams).1 r hr "shop.api"
  rw [hweb, show "shop.web" ++ "." ++ "shop.api" = "shop.web.shop.api" by decide +kernel]
    at htaken hparsed hblocks
  exact ⟨Pipeline.validate_teams, r, hr, hweb, htaken, hparsed, hblocks⟩

end RoutingTable

end LogOperator
