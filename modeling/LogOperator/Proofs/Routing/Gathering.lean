import LogOperator.Proofs.Pipeline.Faults
import LogOperator.Proofs.Routing.Tags
import Mathlib.Data.List.Induction

/-!
# LogOperator.Proofs.Routing.Gathering

What a route is gathered from.  The rules of one tag are read in order, and what they ask for is listed
once each, in the order in which it is first asked for (`FirstsOf`):

* `Spec.firstsOf_distinct` — the items that are met for the first time are such a list;
* `Route.names_parsers_ofRules` — every parser that is asked for is found, because it is defined;
* `RoutingTable.routes_gathered` — the routes of a valid pipeline, in order, each with all that the rules of
  its tag ask for and nothing else.
-/

namespace LogOperator

/-! ## Lists by first appearance -/

/-- The items of a list, each once, in the order in which they are first met. -/
structure FirstsOf {α : Type} [DecidableEq α] (l items : List α) : Prop where
  mem_iff : ∀ a, a ∈ items ↔ a ∈ l
  inOrder : items.Pairwise fun a b => l.idxOf a < l.idxOf b

namespace Spec

variable {α : Type} [DecidableEq α] {l : List α} {a : α}

theorem distinct_concat (l : List α) (a : α) :
    distinct (l ++ [a]) = if a ∈ l then distinct l else distinct l ++ [a] := by
  have hone : [a].eraseDups = [a] := by simp [List.eraseDups_cons]
  rw [distinct, List.eraseDups_append, ← distinct]
  by_cases ha : a ∈ l
  · simp [List.removeAll, ha]
  · simp [List.removeAll, ha, hone]

/-- What is met last is met for the first time or has been met before, and then changes nothing. -/
theorem firstsOf_distinct (l : List α) : FirstsOf l (distinct l) where
  mem_iff _ := mem_distinct
  inOrder := by
    induction l using List.reverseRecOn with
    | nil => exact .nil
    | append_singleton l a ih =>
        have hold : (distinct l).Pairwise fun b c => (l ++ [a]).idxOf b < (l ++ [a]).idxOf c :=
          ih.imp_of_mem fun hb hc hlt => by
            rw [List.idxOf_append_of_mem (mem_distinct.1 hb), List.idxOf_append_of_mem (mem_distinct.1 hc)]
            exact hlt
        rw [distinct_concat]
        split
        · exact hold
        · next hnew =>
            refine List.pairwise_append.2 ⟨hold, List.pairwise_singleton _ _, fun b hb c hc => ?_⟩
            have hb : b ∈ l := mem_distinct.1 hb
            rw [List.mem_singleton.1 hc, List.idxOf_append_of_mem hb, List.idxOf_append_of_notMem hnew]
            exact Nat.lt_add_right _ (List.idxOf_lt_length_of_mem hb)

end Spec

/-! ## Parsers by name -/

namespace LogParser

variable {ps : List LogParser} {name : String} {p q : LogParser}

/-- Looking up names that are defined loses none of them. -/
theorem names_filterMap_find? {asked : List String} (h : ∀ name ∈ asked, name ∈ names ps) :
    names (asked.filterMap fun name => ps.find? (·.name = name)) = asked := by
  induction asked with
  | nil => rfl
  | cons name asked ih =>
      obtain ⟨hname, hasked⟩ := List.forall_mem_cons.1 h
      obtain ⟨p, hp, hsame⟩ := exists_find?_of_mem_names hname
      rw [List.filterMap_cons, hp, names_cons, hsame, ih hasked]

/-- Names tell the defined parsers apart. -/
theorem eq_of_name (h : (names ps).Nodup) (hp : p ∈ ps) (hq : q ∈ ps) (hname : q.name = p.name) :
    q = p :=
  List.inj_on_of_nodup_map h hq hp hname

end LogParser

/-! ## Routes and their rules -/

/-- The rules that route under a tag, in order. -/
def Spec.rulesOf (s : Spec) (tag : String) : List WatchRule :=
  s.watch.filter (·.effectiveTag = tag)

theorem Spec.mem_rulesOf {s : Spec} {tag : String} {rule : WatchRule} :
    rule ∈ s.rulesOf tag ↔ rule ∈ s.watch ∧ rule.effectiveTag = tag := by
  simp [rulesOf]

/-- The route has everything that the rules of its tag ask for, and nothing else: the files, the
parsers, each of them as it is defined under its name, and the outputs, those to the search engine
with an index. -/
structure Route.Gathers (s : Spec) (r : Route) : Prop where
  paths : FirstsOf ((s.rulesOf r.tag).flatMap (·.globs)) r.paths
  names : FirstsOf ((s.rulesOf r.tag).flatMap (·.parsers)) (LogParser.names r.parsers)
  parsers : ∀ p ∈ r.parsers, ∀ q, q ∈ s.parsers ∧ q.name = p.name ↔ q = p
  outputs : FirstsOf (((s.rulesOf r.tag).flatMap (·.outputs)).map (Output.resolve r.tag)) r.outputs
  indexed : ∀ o ∈ r.outputs, o.sink = .searchEngine → o.indexPattern ≠ ""

namespace Route

variable {ps : List LogParser} {tag : String} {rules : List WatchRule} {s : Spec}

/-- Every parser that is asked for is found. -/
theorem names_parsers_ofRules (h : ∀ r ∈ rules, r.WellFormed (LogParser.names ps)) :
    LogParser.names (ofRules ps tag rules).parsers = Spec.distinct (rules.flatMap (·.parsers)) := by
  refine LogParser.names_filterMap_find? fun name hname => ?_
  obtain ⟨r, hr, hname⟩ := List.mem_flatMap.1 (Spec.mem_distinct.1 hname)
  exact (h r hr).parsers name hname

/-- A resolved output to the search engine has an index. -/
theorem indexPattern_resolve_ne (htag : tag ≠ "") {o : Output}
    (hsink : (o.resolve tag).sink = .searchEngine) : (o.resolve tag).indexPattern ≠ "" := by
  rw [sink_resolve] at hsink
  unfold Output.resolve
  split
  · exact htag
  · next hasked => exact fun hempty => hasked ⟨hsink, hempty⟩

/-- **The route of a tag is gathered from the rules of the tag.** -/
theorem gathers_ofRules (h : s.WellFormed) (htag : tag ≠ "") :
    (ofRules s.parsers tag (s.rulesOf tag)).Gathers s where
  paths := Spec.firstsOf_distinct _
  names := by
    rw [names_parsers_ofRules fun r hr => h.watch r (Spec.mem_rulesOf.1 hr).1]
    exact Spec.firstsOf_distinct _
  parsers p hp q := by
    have hdefined := mem_parsers_ofRules hp
    constructor
    · exact fun hq => LogParser.eq_of_name h.names hdefined hq.1 hq.2
    · rintro rfl
      exact ⟨hdefined, rfl⟩
  outputs := Spec.firstsOf_distinct _
  indexed o ho := by
    obtain ⟨asked, -, rfl⟩ := List.mem_map.1 (Spec.mem_distinct.1 ho)
    exact indexPattern_resolve_ne htag

end Route

/-! ## Tables -/

namespace RoutingTable

variable {p : Pipeline} {v : ValidPipeline}

/-- **Routes lose, invent and repeat nothing.**  The routing table of a valid pipeline has one route for
each tag of its rules, in the order in which the tags are first met, and each route is gathered from
the rules of its tag. -/
theorem routes_gathered (hv : p.validate = .ok v) :
    FirstsOf (v.spec.watch.map (·.effectiveTag)) ((ofValid v).routes.map (·.tag)) ∧
    ∀ r ∈ (ofValid v).routes, r.Gathers v.spec := by
  have h := Pipeline.wellFormed_of_validate hv
  refine ⟨?_, List.forall_mem_map.2 fun tag htag => Route.gathers_ofRules h ?_⟩
  · rw [ofValid, tags_ofSpec]
    exact Spec.firstsOf_distinct _
  · rintro rfl
    exact absurd (isToken_of_mem_tags h htag) (by decide)

/-- Three rules of two tags, of which the first and the last share theirs. -/
theorem routes_gathered_teams : Pipeline.teams.validate = .ok Pipeline.teams.validated ∧
    FirstsOf ["shop.web", "shop.api", "shop.web"]
      ((ofValid Pipeline.teams.validated).routes.map (·.tag)) ∧
    ∃ r ∈ (ofValid Pipeline.teams.validated).routes, r.tag = "shop.web" ∧
      FirstsOf ["nginx", "json", "json"] (LogParser.names r.parsers) ∧
      FirstsOf [⟨.searchEngine, "shop.web"⟩, ⟨.stdout, ""⟩, ⟨.stdout, ""⟩] r.outputs := by
  obtain ⟨htags, hroutes⟩ := routes_gathered Pipeline.validate_teams
  have hweb : "shop.web" ∈ (ofValid Pipeline.teams.validated).routes.map (·.tag) :=
    (htags.mem_iff _).2 (by decide)
  obtain ⟨r, hr, hweb⟩ := List.mem_map.1 hweb
  have hgathers := hroutes r hr
  have hnames := hgathers.names
  have houtputs := hgathers.outputs
  rw [hweb] at hnames houtputs
  exact ⟨Pipeline.validate_teams, htags, r, hr, hweb, hnames, houtputs⟩

end RoutingTable

end LogOperator
