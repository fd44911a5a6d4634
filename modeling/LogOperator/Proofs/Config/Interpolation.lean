import LogOperator.Proofs.Config.Directives
import LogOperator.Proofs.Routing.Gathering
import Mathlib.Algebra.Order.BigOperators.Group.List
import Mathlib.Algebra.Order.Group.Nat
import Mathlib.Algebra.Ring.Nat

/-!
# LogOperator.Proofs.Config.Interpolation

Where the aggregator's text has embedded code in it.  The aggregator evaluates what follows a number
sign and a brace in a text in double quotes, and this is how it takes the address of the search engine
from its environment.  Tags cannot have such code in them, but an index can:

* `Text.occurrences_append_cons` — a word is not met across a character that it does not have;
* `Aggregator.filter_interpolates_store` — the lines of an output with embedded code;
* `RoutingTable.interpolations_aggregator` — those of the text of a valid pipeline: host, port and
  scheme of each output to the search engine, and the indices that a rule asks for with code in them.
-/

namespace LogOperator

/-! ## Words in a text -/

namespace Text

variable {w xs ys : List Char} {sep : Char} {s : String}

/-- How often a word is met in a text. -/
def occurrences (w : List Char) : List Char → Nat
  | [] => 0
  | c :: cs => (if w.isPrefixOf (c :: cs) then 1 else 0) + occurrences w cs

@[simp] theorem occurrences_nil (w : List Char) : occurrences w [] = 0 := rfl

theorem occurrences_cons (w : List Char) (c : Char) (cs : List Char) : occurrences w (c :: cs)
    = (if w.isPrefixOf (c :: cs) then 1 else 0) + occurrences w cs := rfl

/-- A beginning of a text without the separator lies in front of the separator. -/
theorem prefix_append_cons_iff (h : sep ∉ w) : w <+: xs ++ sep :: ys ↔ w <+: xs := by
  refine ⟨fun hw => ?_, fun hw => hw.trans (List.prefix_append _ _)⟩
  by_cases hlength : w.length ≤ xs.length
  · exact List.prefix_of_prefix_length_le hw (List.prefix_append _ _) hlength
  · have hsep : xs ++ [sep] <+: w := by
      refine List.prefix_of_prefix_length_le ⟨ys, ?_⟩ hw ?_
      · rw [List.append_assoc, List.singleton_append]
      · rw [List.length_append, List.length_singleton]
        omega
    exact absurd (hsep.subset (List.mem_append_right _ List.mem_cons_self)) h

/-- **A character that a word does not have cuts the text**: the word is met on either side of it. -/
theorem occurrences_append_cons (hne : w ≠ []) (h : sep ∉ w) :
    occurrences w (xs ++ sep :: ys) = occurrences w xs + occurrences w ys := by
  have hprefix (zs : List Char) :
      w.isPrefixOf (zs ++ sep :: ys) = w.isPrefixOf zs := by
    rw [Bool.eq_iff_iff, List.isPrefixOf_iff_prefix, List.isPrefixOf_iff_prefix,
      prefix_append_cons_iff h]
  induction xs with
  | nil =>
      have hnil : w.isPrefixOf (sep :: ys) = false := by
        rw [Bool.eq_false_iff, ← List.nil_append (sep :: ys), hprefix, ne_eq,
          List.isPrefixOf_iff_prefix, List.prefix_nil]
        exact hne
      rw [List.nil_append, occurrences_cons, hnil, occurrences_nil]
      rfl
  | cons x xs ih =>
      rw [List.cons_append, occurrences_cons, ← List.cons_append, hprefix, ih, occurrences_cons,
        Nat.add_assoc]

/-- A text without one of the characters of a word. -/
theorem occurrences_eq_zero {c : Char} (hc : c ∈ w) (h : c ∉ xs) : occurrences w xs = 0 := by
  induction xs with
  | nil => rfl
  | cons x xs ih =>
      have hnot : w.isPrefixOf (x :: xs) = false := by
        rw [Bool.eq_false_iff]
        exact fun hw => h ((List.isPrefixOf_iff_prefix.1 hw).subset hc)
      rw [occurrences_cons, hnot, ih (List.not_mem_of_not_mem_cons h)]
      rfl

/-- How often embedded code starts in a text. -/
def interpolations (s : String) : Nat :=
  occurrences ['#', '\x7b'] s.toList

/-- The text has embedded code in it. -/
def interpolates (s : String) : Bool :=
  interpolations s ≠ 0

/-- A text interpolates nothing exactly if the count is zero. -/
theorem interpolates_eq_false_iff : interpolates s = false ↔ interpolations s = 0 := by
  simp [interpolates]

/-- Without a number sign there is nothing to interpolate. -/
theorem interpolations_eq_zero (h : '#' ∉ s.toList) : interpolations s = 0 :=
  occurrences_eq_zero List.mem_cons_self h

theorem interpolations_of_isToken (h : isToken s = true) : interpolations s = 0 :=
  interpolations_eq_zero (not_mem_of_isToken h (by decide))

/-- Embedded code does not start across a blank. -/
theorem interpolations_append_blank (s t : String) :
    interpolations (s ++ " " ++ t) = interpolations s + interpolations t := by
  have hchars : (s ++ " " ++ t).toList = s.toList ++ ' ' :: t.toList := by
    simp [String.toList_append]
  rw [interpolations, hchars]
  exact occurrences_append_cons (by decide) (by decide)

/-- Embedded code does not start across lines. -/
theorem interpolations_unlines (ls : List String) :
    interpolations (unlines ls) = (ls.map interpolations).sum := by
  induction ls with
  | nil => rfl
  | cons l ls ih =>
      have hchars : (unlines (l :: ls)).toList = l.toList ++ '\n' :: (unlines ls).toList := by
        simp [unlines, String.toList_append]
      rw [interpolations, hchars, occurrences_append_cons (by decide) (by decide), List.map_cons,
        List.sum_cons, ← ih]
      rfl

/-- Only the lines with embedded code count. -/
theorem sum_interpolations_filter (ls : List String) :
    ((ls.filter interpolates).map interpolations).sum = (ls.map interpolations).sum := by
  induction ls with
  | nil => rfl
  | cons l ls ih =>
      cases hl : interpolates l with
      | true => rw [List.filter_cons_of_pos hl, List.map_cons, List.map_cons, List.sum_cons,
          List.sum_cons, ih]
      | false =>
          rw [List.filter_cons_of_neg (by simp [hl]), List.map_cons, List.sum_cons,
            interpolates_eq_false_iff.1 hl, Nat.zero_add, ih]

end Text

open Text (interpolations interpolates)

/-! ## Lines of an output -/

namespace Aggregator

/-- The lines of an output that take the address of the search engine from the environment. -/
def addressLines : List String :=
  [environmentParameter "host" hostVariable, environmentParameter "port" portVariable,
   environmentParameter "scheme" schemeVariable].map ("    " ++ ·)

/-- The line of an output with its index. -/
def indexLine (index : String) : String :=
  "    " ++ ("logstash_prefix " ++ index)

/-- The lines with embedded code of an output to the search engine. -/
def interpolatedLines (o : Output) : List String :=
  addressLines ++ [indexLine o.indexPattern].filter interpolates

/-- The line of an index interpolates what the pattern does. -/
theorem interpolations_indexLine (index : String) :
    interpolations (indexLine index) = interpolations index := by
  have hline : indexLine index = "    logstash_prefix" ++ " " ++ index := by
    rw [indexLine, ← String.append_assoc]
    rfl
  rw [hline, Text.interpolations_append_blank, Text.interpolations_eq_zero (by decide), Nat.zero_add]

/-- The three lines of the address, and the index if it has embedded code in it. -/
theorem sum_interpolatedLines (o : Output) :
    ((interpolatedLines o).map interpolations).sum = 3 + interpolations o.indexPattern := by
  have haddress : (addressLines.map interpolations).sum = 3 := by decide
  rw [interpolatedLines, List.map_append, List.sum_append, haddress, Text.sum_interpolations_filter]
  simp [interpolations_indexLine]

/-- **The lines of an output with embedded code.** -/
theorem filter_interpolates_store (o : Output) : (store o).filter interpolates
    = if o.sink = .searchEngine then interpolatedLines o else [] := by
  obtain ⟨sink, index⟩ := o
  cases sink with
  | stdout =>
      have hnone : ["  <store>", "    @type stdout", "  </store>"].filter interpolates = [] := by
        decide
      exact hnone
  | searchEngine =>
      have hfront : ["  <store>", "    @type elasticsearch"].filter interpolates = [] := by decide
      have haddress : addressLines.filter interpolates = addressLines := by decide
      have hformat : ["    logstash_format true"].filter interpolates = [] := by decide
      have hback : ["    flush_interval 1s", "  </store>"].filter interpolates = [] := by decide
      have hstore : store ⟨.searchEngine, index⟩ = ["  <store>", "    @type elasticsearch"]
          ++ addressLines ++ ["    logstash_format true"] ++ [indexLine index]
          ++ ["    flush_interval 1s", "  </store>"] := rfl
      rw [hstore, List.filter_append, List.filter_append, List.filter_append, List.filter_append,
        hfront, haddress, hformat, hback]
      simp [interpolatedLines]

end Aggregator

/-! ## Routes -/

namespace Route

variable {r : Route}

/-- The outputs of a route to the search engine. -/
def searchOutputs (r : Route) : List Output :=
  r.outputs.filter (·.sink = .searchEngine)

/-- No token has embedded code in it, so all of it is in the outputs. -/
theorem filter_interpolates_routeLines (h : Text.isToken r.tag = true) :
    (Aggregator.routeLines r).filter interpolates
      = r.searchOutputs.flatMap Aggregator.interpolatedLines := by
  have hheader : ["<match " ++ r.tag ++ "**>", "  @type copy"].filter interpolates = [] := by
    have htag : interpolates ("<match " ++ r.tag ++ "**>") = false := by
      refine Text.interpolates_eq_false_iff.2 (Text.interpolations_eq_zero ?_)
      have hnot : '#' ∉ r.tag.toList := Text.not_mem_of_isToken h (by decide)
      simpa [String.toList_append] using hnot
    have hcopy : ["  @type copy"].filter interpolates = [] := by decide
    rw [List.filter_cons_of_neg (by simp [htag]), hcopy]
  have hclose : ["</match>"].filter interpolates = [] := by decide
  have hstores (os : List Output) : (os.flatMap Aggregator.store).filter interpolates
      = (os.filter (·.sink = .searchEngine)).flatMap Aggregator.interpolatedLines := by
    induction os with
    | nil => rfl
    | cons o os ih =>
        rw [List.flatMap_cons, List.filter_append, ih, Aggregator.filter_interpolates_store]
        split
        · next hsink => rw [List.filter_cons_of_pos (by simpa using hsink), List.flatMap_cons]
        · next hsink => rw [List.filter_cons_of_neg (by simpa using hsink), List.nil_append]
  rw [Aggregator.routeLines, List.filter_append, List.filter_append, hheader, hclose, hstores,
    List.nil_append, List.append_nil]
  rfl

/-- The index of an output has embedded code in it exactly if it was asked for. -/
theorem interpolations_resolve {tag : String} (h : Text.isToken tag = true) (o : Output) :
    interpolations (o.resolve tag).indexPattern = interpolations o.indexPattern := by
  unfold Output.resolve
  split
  · next hasked =>
      rw [hasked.2]
      exact Text.interpolations_of_isToken h
  · rfl

end Route

/-! ## Tables -/

namespace RoutingTable

variable {t : RoutingTable} {s : Spec} {p : Pipeline} {v : ValidPipeline}

/-- The outputs of all routes to the search engine. -/
def searchOutputs (t : RoutingTable) : List Output :=
  t.routes.flatMap Route.searchOutputs

/-- The outputs to the search engine are those that rules ask for. -/
theorem mem_searchOutputs {o : Output} : o ∈ (ofSpec s).searchOutputs ↔
    ∃ rule ∈ s.watch, ∃ asked ∈ rule.outputs, asked.sink = .searchEngine ∧
      asked.resolve rule.effectiveTag = o := by
  constructor
  · intro ho
    obtain ⟨r, hr, ho⟩ := List.mem_flatMap.1 ho
    obtain ⟨tag, -, rfl⟩ := List.mem_map.1 hr
    obtain ⟨hout, hsink⟩ := List.mem_filter.1 ho
    obtain ⟨asked, hany, rfl⟩ := List.mem_map.1 (Spec.mem_distinct.1 hout)
    obtain ⟨rule, htagged, hasked⟩ := List.mem_flatMap.1 hany
    obtain ⟨hrule, rfl⟩ := Spec.mem_rulesOf.1 htagged
    rw [decide_eq_true_eq, Route.sink_resolve] at hsink
    exact ⟨rule, hrule, asked, hasked, hsink, rfl⟩
  · rintro ⟨rule, hrule, asked, hasked, hsink, rfl⟩
    have htag : rule.effectiveTag ∈ s.tags := Spec.mem_tags.2 ⟨rule, hrule, rfl⟩
    have hout : asked ∈ (s.rulesOf rule.effectiveTag).flatMap (·.outputs) :=
      List.mem_flatMap.2 ⟨rule, Spec.mem_rulesOf.2 ⟨hrule, rfl⟩, hasked⟩
    refine List.mem_flatMap.2 ⟨_, List.mem_map.2 ⟨_, htag, rfl⟩, List.mem_filter.2 ⟨?_, ?_⟩⟩
    · exact Spec.mem_distinct.2 (List.mem_map.2 ⟨asked, hout, rfl⟩)
    · rw [decide_eq_true_eq, Route.sink_resolve, hsink]

/-- Embedded code is in an index exactly if a rule asks for it. -/
theorem interpolations_searchOutputs (h : s.WellFormed) :
    (∀ o ∈ (ofSpec s).searchOutputs, interpolations o.indexPattern = 0) ↔
      ∀ rule ∈ s.watch, ∀ asked ∈ rule.outputs, asked.sink = .searchEngine →
        interpolations asked.indexPattern = 0 := by
  have hsame {rule : WatchRule} (hrule : rule ∈ s.watch) (asked : Output) :=
    Route.interpolations_resolve (h.watch rule hrule).isToken_effectiveTag asked
  constructor
  · intro hnone rule hrule asked hasked hsink
    rw [← hsame hrule]
    exact hnone _ (mem_searchOutputs.2 ⟨rule, hrule, asked, hasked, hsink, rfl⟩)
  · intro hnone o ho
    obtain ⟨rule, hrule, asked, hasked, hsink, rfl⟩ := mem_searchOutputs.1 ho
    rw [hsame hrule]
    exact hnone rule hrule asked hasked hsink

/-- **The lines of the aggregator's text that interpolate** are those of its search outputs. -/
theorem filter_interpolates_lines (h : t.WellFormed) :
    (Text.lines (t.compile .aggregator)).filter interpolates
      = t.searchOutputs.flatMap Aggregator.interpolatedLines := by
  have hsource : Aggregator.source.filter interpolates = [] := by decide
  have hcheck : Aggregator.timestampCheck.filter interpolates = [] := by decide
  rw [lines_aggregator h, Text.filter_spaced (by decide), Aggregator.blocks, List.flatMap_cons,
    List.flatMap_cons, hsource, hcheck, List.nil_append, List.nil_append, List.flatMap_map,
    searchOutputs, List.flatMap_assoc, List.flatMap_def, List.flatMap_def]
  exact congrArg List.flatten (List.map_congr_left fun r hr =>
    Route.filter_interpolates_routeLines (h.routes r hr).token)

/-- Every search output brings the three of its endpoint, and those of its index pattern. -/
theorem interpolations_compile (h : t.WellFormed) :
    interpolations (t.compile .aggregator) = 3 * t.searchOutputs.length
      + (t.searchOutputs.map fun o => interpolations o.indexPattern).sum := by
  have hlines : interpolations (t.compile .aggregator)
      = ((Text.lines (t.compile .aggregator)).map interpolations).sum := by
    rw [lines_aggregator h]
    exact Text.interpolations_unlines _
  rw [hlines, ← Text.sum_interpolations_filter, filter_interpolates_lines h]
  induction t.searchOutputs with
  | nil => rfl
  | cons o os ih =>
      rw [List.flatMap_cons, List.map_append, List.sum_append, ih,
        Aggregator.sum_interpolatedLines, List.map_cons, List.sum_cons, List.length_cons]
      omega

/-- **Where the text has embedded code in it.**  The lines of the aggregator's text in which code is
embedded are, for each output to the search engine, host, port and scheme, once each, and the index if
there is code in it.  So it is embedded three times per output to the search engine exactly if no rule
asks for an index with code in it. -/
theorem interpolations_aggregator (hv : p.validate = .ok v) :
    (Text.lines ((ofValid v).compile .aggregator)).filter interpolates
      = (ofValid v).searchOutputs.flatMap Aggregator.interpolatedLines ∧
    interpolations ((ofValid v).compile .aggregator) = 3 * (ofValid v).searchOutputs.length
      + ((ofValid v).searchOutputs.map fun o => interpolations o.indexPattern).sum ∧
    (interpolations ((ofValid v).compile .aggregator) = 3 * (ofValid v).searchOutputs.length ↔
      ∀ rule ∈ v.spec.watch, ∀ asked ∈ rule.outputs, asked.sink = .searchEngine →
        interpolations asked.indexPattern = 0) := by
  have h := wellFormed_ofValid hv
  refine ⟨filter_interpolates_lines h, interpolations_compile h, ?_⟩
  rw [interpolations_compile h, Nat.add_eq_left, List.sum_eq_zero_iff, List.forall_mem_map,
    ofValid, interpolations_searchOutputs (Pipeline.wellFormed_of_validate hv)]

/-- Two teams, of which one leaves its index open and the other asks for one. -/
theorem interpolations_aggregator_teams : Pipeline.teams.validate = .ok Pipeline.teams.validated ∧
    (ofValid Pipeline.teams.validated).searchOutputs
      = [⟨.searchEngine, "shop.web"⟩, ⟨.searchEngine, "payments-*"⟩] ∧
    interpolations ((ofValid Pipeline.teams.validated).compile .aggregator) = 6 := by
  obtain ⟨-, -, hcount⟩ := interpolations_aggregator Pipeline.validate_teams
  have houtputs : (ofValid Pipeline.teams.validated).searchOutputs
      = [⟨.searchEngine, "shop.web"⟩, ⟨.searchEngine, "payments-*"⟩] := by decide +kernel
  refine ⟨Pipeline.validate_teams, houtputs, ?_⟩
  rw [hcount.2 (by decide), houtputs]
  rfl

end RoutingTable

namespace Pipeline

/-- An index that is code in double quotes. -/
def script : String :=
  "\"#\x7bENV['HOME']\x7d\""

/-- A pipeline with one rule, which asks for such an index. -/
def scripted : Pipeline where
  metadata := { Metadata.empty with name := some "main", ns := some "logging" }
  spec := { Spec.blank with
    ns := "logging"
    version := "7.10.2"
    parsers := [⟨"json", "^(?<log>.*)$"⟩]
    watch := [⟨"checkout", "", [], ["json"], [⟨.searchEngine, script⟩]⟩]
    searchEngine := ⟨false, "search.example.com", some 9200, false⟩ }

theorem validate_scripted : scripted.validate = .ok scripted.validated :=
  validate_of_violations (by decide +kernel)

/-- The pipeline is valid, and its code is in the text, where it is embedded once more than three times
for the one output. -/
theorem code_embedded_scripted : scripted.validate = .ok scripted.validated ∧
    (RoutingTable.ofValid scripted.validated).searchOutputs.length = 1 ∧
    "    logstash_prefix \"#\x7bENV['HOME']\x7d\""
      ∈ Text.lines ((RoutingTable.ofValid scripted.validated).compile .aggregator) ∧
    interpolations ((RoutingTable.ofValid scripted.validated).compile .aggregator) = 4 := by
  have h := RoutingTable.wellFormed_ofValid validate_scripted
  have houtputs : (RoutingTable.ofValid scripted.validated).searchOutputs
      = [⟨.searchEngine, script⟩] := by decide +kernel
  have hline : "    logstash_prefix \"#\x7bENV['HOME']\x7d\"" ∈
      (Text.lines ((RoutingTable.ofValid scripted.validated).compile .aggregator)).filter
        interpolates := by
    rw [RoutingTable.filter_interpolates_lines h, houtputs]
    decide
  refine ⟨validate_scripted, by rw [houtputs]; rfl, (List.mem_filter.1 hline).1, ?_⟩
  rw [RoutingTable.interpolations_compile h, houtputs]
  rfl

end Pipeline

end LogOperator
