import LogOperator.Config.Aggregator
import LogOperator.Proofs.Routing.Table
import LogOperator.Proofs.Text.Wildcard
import Mathlib.Data.List.Nodup

/-!
# LogOperator.Proofs.Routing.Tags

Which routes a record goes through.  The collector passes a record through the parsers of a route if its
tag fits the route's pattern `tag.*`, and the aggregator takes it if its tag fits `tag**`; the stars
stand for any text:

* `Route.parses_iff`, `Route.takes_iff` — both patterns look at the beginning of the record's tag;
* `RoutingTable.WellFormed.eq_of_starts` — no record's tag starts with the tags of two routes, so both
  patterns tell the routes apart (`WellFormed.eq_of_takes`, `WellFormed.eq_of_parses`).
-/

namespace LogOperator

/-! ## Patterns -/

/-- The pattern of the record tags that the aggregator's block of a route takes. -/
def Aggregator.matchPattern (r : Route) : String :=
  r.tag ++ "**"

/-- The record's tag fits the pattern, in which stars stand for any text. -/
def Text.covers (pattern record : String) : Bool :=
  fits (fun _ => true) pattern.toList record.toList

namespace Route

variable {r : Route} {record : String}

/-- The collector's filters of the route apply to records of the given tag. -/
def parses (r : Route) (record : String) : Bool :=
  Text.covers r.tagPattern record

/-- The aggregator's block of the route takes records of the given tag. -/
def takes (r : Route) (record : String) : Bool :=
  Text.covers (Aggregator.matchPattern r) record

/-- **The collector looks for the route's tag and a dot.** -/
theorem parses_iff (h : Text.isToken r.tag = true) :
    r.parses record = true ↔ (r.tag ++ ".").toList <+: record.toList := by
  have hpattern : r.tagPattern.toList = (r.tag ++ ".").toList ++ List.replicate 1 '*' := by
    simp [tagPattern, String.toList_append]
  have hstar : '*' ∉ (r.tag ++ ".").toList := by
    have hnot : '*' ∉ r.tag.toList := Text.not_mem_of_isToken h (by decide)
    simpa [String.toList_append] using hnot
  rw [parses, Text.covers, hpattern, Text.fits_append_iff hstar]
  simp only [Text.fits_stars, and_true]
  exact exists_congr fun rest => eq_comm

/-- **The aggregator looks for the route's tag.** -/
theorem takes_iff (h : Text.isToken r.tag = true) :
    r.takes record = true ↔ r.tag.toList <+: record.toList := by
  have hpattern : (Aggregator.matchPattern r).toList = r.tag.toList ++ List.replicate 2 '*' := by
    simp [Aggregator.matchPattern, String.toList_append]
  rw [takes, Text.covers, hpattern, Text.fits_append_iff (Text.not_mem_of_isToken h (by decide))]
  simp only [Text.fits_stars, and_true]
  exact exists_congr fun rest => eq_comm

/-- What the collector parses the aggregator takes. -/
theorem takes_of_parses (h : Text.isToken r.tag = true) (hp : r.parses record = true) :
    r.takes record = true := by
  refine (takes_iff h).2 (List.IsPrefix.trans ?_ ((parses_iff h).1 hp))
  rw [String.toList_append]
  exact List.prefix_append _ _

end Route

/-! ## Routes -/

namespace RoutingTable

variable {t : RoutingTable} {r r' : Route} {f : Route → Bool} {record : String} {p : Pipeline}
  {v : ValidPipeline}

/-- Tags tell the routes apart. -/
theorem WellFormed.eq_of_tag (h : t.WellFormed) (hr : r ∈ t.routes) (hr' : r' ∈ t.routes)
    (htag : r.tag = r'.tag) : r = r' :=
  List.inj_on_of_nodup_map h.tags hr hr' htag

theorem WellFormed.nodup_routes (h : t.WellFormed) : t.routes.Nodup :=
  List.Nodup.of_map _ h.tags

/-- Two tags that a record's tag starts with start with one another, so they are of one route. -/
theorem WellFormed.eq_of_starts (h : t.WellFormed) (hr : r ∈ t.routes) (hr' : r' ∈ t.routes)
    (hs : r.tag.toList <+: record.toList) (hs' : r'.tag.toList <+: record.toList) : r = r' := by
  rcases List.prefix_or_prefix_of_prefix hs hs' with hstarts | hstarts
  · exact h.eq_of_tag hr hr' (h.apart r' hr' r hr hstarts)
  · exact h.eq_of_tag hr hr' (h.apart r hr r' hr' hstarts).symm

/-- No record is taken by two routes. -/
theorem WellFormed.eq_of_takes (h : t.WellFormed) (hr : r ∈ t.routes) (hr' : r' ∈ t.routes)
    (htakes : r.takes record = true) (htakes' : r'.takes record = true) : r = r' :=
  h.eq_of_starts hr hr' ((Route.takes_iff (h.routes r hr).token).1 htakes)
    ((Route.takes_iff (h.routes r' hr').token).1 htakes')

/-- No record is parsed by two routes. -/
theorem WellFormed.eq_of_parses (h : t.WellFormed) (hr : r ∈ t.routes) (hr' : r' ∈ t.routes)
    (hparses : r.parses record = true) (hparses' : r'.parses record = true) : r = r' :=
  h.eq_of_takes hr hr' (Route.takes_of_parses (h.routes r hr).token hparses)
    (Route.takes_of_parses (h.routes r' hr').token hparses')

/-- A condition that tells routes apart selects the route that meets it. -/
theorem WellFormed.filter_eq_singleton (h : t.WellFormed)
    (hf : ∀ r ∈ t.routes, ∀ r' ∈ t.routes, f r = true → f r' = true → r = r')
    (hr : r ∈ t.routes) (hfr : f r = true) : t.routes.filter f = [r] := by
  have hsame : t.routes.filter f = t.routes.filter (· == r) :=
    List.filter_congr fun r' hr' => by
      rw [Bool.eq_iff_iff, beq_iff_eq]
      exact ⟨fun hfr' => hf r' hr' r hr hfr' hfr, fun heq => heq ▸ hfr⟩
  rw [hsame, List.filter_beq, h.nodup_routes.count, if_pos hr]
  rfl

/-- It is met by one route at most. -/
theorem WellFormed.length_filter_le_one (h : t.WellFormed)
    (hf : ∀ r ∈ t.routes, ∀ r' ∈ t.routes, f r = true → f r' = true → r = r') :
    (t.routes.filter f).length ≤ 1 := by
  cases hroutes : t.routes.filter f with
  | nil => exact Nat.zero_le 1
  | cons r rest =>
      have hmem : r ∈ t.routes.filter f := hroutes ▸ List.mem_cons_self
      obtain ⟨hr, hfr⟩ := List.mem_filter.1 hmem
      rw [← hroutes, h.filter_eq_singleton hf hr hfr]
      exact Nat.le_refl 1

end RoutingTable

/-! ## Two teams -/

namespace Pipeline

/-- A pipeline with three rules under two tags that have their first part in common. -/
def teams : Pipeline where
  metadata := { Metadata.empty with name := some "main", ns := some "logging" }
  spec := { Spec.blank with
    includeMetadata := true
    version := "7.10.2"
    parsers := [⟨"json", "^(?<log>.*)$"⟩, ⟨"nginx", "^(?<host>[^ ]*) (?<log>.*)$"⟩]
    watch :=
      [⟨"shop", "shop.web", ["api.v2", "cart"], ["nginx", "json"], [⟨.searchEngine, ""⟩, ⟨.stdout, ""⟩]⟩,
       ⟨"payments", "shop.api", [], ["json"], [⟨.searchEngine, "payments-*"⟩]⟩,
       ⟨"edge", "shop.web", [], ["json"], [⟨.stdout, ""⟩]⟩]
    searchEngine := ⟨true, "", none, false⟩ }

theorem validate_teams : teams.validate = .ok teams.validated :=
  validate_of_violations (by decide +kernel)

end Pipeline

end LogOperator
