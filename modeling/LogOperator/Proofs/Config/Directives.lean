import LogOperator.Config.Dialect
import LogOperator.Proofs.Routing.Tags

/-!
# LogOperator.Proofs.Config.Directives

The aggregator's text, read back.  Its lines are those of the blocks that it was written from, and the
lines that open and close a block are its marks (`Mark`), which nest:

* `RoutingTable.lines_aggregator`, `RoutingTable.blocks_aggregator` — the lines and the blocks of the
  text;
* `RoutingTable.readAll_aggregator` — its marks, which are those of the sources and routes;
* `WellNested.append`, `wellNested_marks` — every block is closed, and after those that are in it.
-/

namespace LogOperator

open Text (OneLine)

/-! ## Marks -/

/-- A line that opens or closes a block. -/
inductive Mark where
  | enter (name argument : String)
  | leave (name : String)
deriving DecidableEq

namespace Mark

/-- The mark that enters a block, from what stands between its angle brackets. -/
def ofInner (inner : List Char) : Mark :=
  .enter (String.ofList (inner.takeWhile (· ≠ ' ')))
    (String.ofList ((inner.dropWhile (· ≠ ' ')).drop 1))

/-- The mark on a line, if its first character that is not blank is an angle bracket. -/
def ofLine? (line : String) : Option Mark :=
  match line.toList.dropWhile Text.isBlank with
  | '<' :: '/' :: cs => some (.leave (String.ofList (cs.takeWhile (· ≠ '>'))))
  | '<' :: cs => some (ofInner (cs.takeWhile (· ≠ '>')))
  | _ => none

/-- The marks of a text, in order. -/
def readAll (text : String) : List Mark :=
  (Text.lines text).filterMap ofLine?

/-- The mark without the argument of its block. -/
def bare : Mark → Mark
  | enter name _ => enter name ""
  | leave name => leave name

/-- What the block that is entered is about, if it has the given name. -/
def argument? (name : String) : Mark → Option String
  | enter other argument => if other = name then some argument else none
  | leave _ => none

/-- What blocks of the given name are about, in order. -/
def arguments (name : String) (ms : List Mark) : List String :=
  ms.filterMap (argument? name)

end Mark

/-- Every block that is entered is left, after the blocks in it and before anything else. -/
inductive WellNested : List Mark → Prop where
  | nil : WellNested []
  | block {name argument : String} {body rest : List Mark} (hbody : WellNested body)
      (hrest : WellNested rest) :
      WellNested (Mark.enter name argument :: body ++ Mark.leave name :: rest)

namespace WellNested

variable {ms ns : List Mark} {name argument : String}

/-- Nesting is kept by texts one after the other. -/
theorem append (hm : WellNested ms) (hn : WellNested ns) : WellNested (ms ++ ns) := by
  induction hm with
  | nil => exact hn
  | block hbody hrest _ ih =>
      rw [List.append_assoc, List.cons_append]
      exact block hbody ih

/-- A block around marks that nest. -/
theorem wrap (h : WellNested ms) :
    WellNested (Mark.enter name argument :: ms ++ [Mark.leave name]) :=
  block h nil

theorem flatMap {α : Type} {l : List α} {f : α → List Mark} (h : ∀ a ∈ l, WellNested (f a)) :
    WellNested (l.flatMap f) := by
  induction l with
  | nil => exact nil
  | cons a l ih =>
      obtain ⟨ha, hl⟩ := List.forall_mem_cons.1 h
      exact ha.append (ih hl)

end WellNested

namespace Aggregator

variable {t : RoutingTable} {r : Route} {o : Output} {l : String}

/-! ## Lines -/

/-- A line of a block: it has no newline in it and is not empty. -/
def IsBlockLine (l : String) : Prop :=
  OneLine l ∧ l ≠ ""

instance (l : String) : Decidable (IsBlockLine l) :=
  inferInstanceAs (Decidable (_ ∧ _))

/-- A line of a block stays one whatever is added within the line. -/
theorem IsBlockLine.append (hl : IsBlockLine l) {s : String} (hs : OneLine s) :
    IsBlockLine (l ++ s) := by
  refine ⟨hl.1.append hs, fun h => hl.2 ?_⟩
  have hchars := congrArg String.toList h
  rw [String.toList_append] at hchars
  exact String.toList_injective (List.append_eq_nil_iff.1 hchars).1

/-- The parameters of an output are lines if its index pattern is one. -/
theorem oneLine_of_mem_parameters (h : OneLine o.indexPattern) : ∀ s ∈ parameters o, OneLine s := by
  unfold parameters
  cases o.sink with
  | searchEngine =>
      have hprefix : OneLine ("logstash_prefix " ++ o.indexPattern) :=
        (by decide : OneLine "logstash_prefix ").append h
      simp only [List.forall_mem_cons]
      exact ⟨by decide, by decide, by decide, by decide, by decide, hprefix, by decide⟩
  | stdout => exact List.forall_mem_singleton.2 (by decide)

/-- So are all lines of its block. -/
theorem isBlockLine_of_mem_store (h : OneLine o.indexPattern) :
    ∀ s ∈ store o, IsBlockLine s := by
  rw [store, List.forall_mem_cons, List.forall_mem_append, List.forall_mem_map]
  refine ⟨by decide, fun s hs => ?_, by decide⟩
  exact (by decide : IsBlockLine "    ").append (oneLine_of_mem_parameters h s hs)

/-- And all lines of a route. -/
theorem isBlockLine_of_mem_routeLines (h : r.OneLine) : ∀ s ∈ routeLines r, IsBlockLine s := by
  have hheader : IsBlockLine ("<match " ++ r.tag ++ "**>") :=
    ((by decide : IsBlockLine "<match ").append h.tag).append (by decide)
  rw [routeLines, List.forall_mem_append, List.forall_mem_append, List.forall_mem_cons,
    List.forall_mem_flatMap]
  exact ⟨⟨⟨hheader, by decide⟩, fun o ho => isBlockLine_of_mem_store (h.outputs o ho)⟩, by decide⟩

/-- And all lines of a text. -/
theorem isBlockLine_of_mem_blocks (h : ∀ r ∈ t.routes, r.OneLine) :
    ∀ b ∈ blocks t, ∀ s ∈ b, IsBlockLine s := by
  rw [blocks, List.forall_mem_cons, List.forall_mem_cons, List.forall_mem_map]
  exact ⟨by decide, by decide, fun r hr => isBlockLine_of_mem_routeLines (h r hr)⟩

theorem ne_nil_of_mem_blocks : ∀ b ∈ blocks t, b ≠ [] := by
  rw [blocks, List.forall_mem_cons, List.forall_mem_cons, List.forall_mem_map]
  exact ⟨by decide, by decide, fun r _ => List.cons_ne_nil _ _⟩

/-! ## The marks of a block -/

/-- The marks of an output. -/
def storeMarks : List Mark :=
  [.enter "store" "", .leave "store"]

/-- The marks of a route. -/
def routeMarks (r : Route) : List Mark :=
  .enter "match" (matchPattern r) :: r.outputs.flatMap (fun _ => storeMarks) ++ [.leave "match"]

/-- The marks of the configuration. -/
def marks (t : RoutingTable) : List Mark :=
  [.enter "source" "", .leave "source", .enter "filter" "**", .leave "filter"]
    ++ t.routes.flatMap routeMarks

/-- A parameter starts with a letter or an at sign, so its line has no mark. -/
theorem filterMap_ofLine?_parameters (o : Output) :
    ((parameters o).map ("    " ++ ·)).filterMap Mark.ofLine? = [] := by
  unfold parameters
  cases o.sink with
  | searchEngine =>
      have hprefix : Mark.ofLine? ("    " ++ ("logstash_prefix " ++ o.indexPattern)) = none := by
        simp only [Mark.ofLine?, String.toList_append]
        rfl
      simp only [List.map_cons, List.map_nil, List.filterMap_cons, hprefix]
      decide
  | stdout => rfl

/-- The marks in the lines of an output are those of a store. -/
theorem filterMap_ofLine?_store (o : Output) : (store o).filterMap Mark.ofLine? = storeMarks := by
  have hopen : Mark.ofLine? "  <store>" = some (.enter "store" "") := by decide
  have hclose : ["  </store>"].filterMap Mark.ofLine? = [.leave "store"] := by decide
  rw [store, List.filterMap_cons_some hopen, List.filterMap_append, filterMap_ofLine?_parameters,
    hclose]
  rfl

/-- The header of a route tells its pattern, since no token has an angle bracket in it. -/
theorem ofLine?_header (h : Text.isToken r.tag = true) :
    Mark.ofLine? ("<match " ++ r.tag ++ "**>") = some (.enter "match" (matchPattern r)) := by
  have hchars : ("<match " ++ r.tag ++ "**>").toList
      = '<' :: ("match ".toList ++ (matchPattern r).toList ++ ['>']) := by
    simp [matchPattern, String.toList_append]
  have hinner : ∀ c ∈ "match ".toList ++ (matchPattern r).toList, decide (c ≠ '>') = true := by
    intro c hc
    rw [decide_eq_true_eq]
    rintro rfl
    simp only [matchPattern, String.toList_append, List.mem_append] at hc
    rcases hc with hc | hc | hc
    · exact absurd hc (by decide)
    · exact Text.not_mem_of_isToken h (by decide) hc
    · exact absurd hc (by decide)
  have hread : ("match ".toList ++ (matchPattern r).toList ++ ['>']).takeWhile (· ≠ '>')
      = "match ".toList ++ (matchPattern r).toList := by
    rw [List.takeWhile_append_of_pos hinner]
    exact List.append_nil _
  have hmark : Mark.ofInner ("match ".toList ++ (matchPattern r).toList)
      = .enter "match" (String.ofList (matchPattern r).toList) := rfl
  rw [String.ofList_toList] at hmark
  rw [← hmark, ← hread, Mark.ofLine?, hchars]
  rfl

/-- The marks in the lines of a route are its match around the stores of its outputs. -/
theorem filterMap_ofLine?_routeLines (h : Text.isToken r.tag = true) :
    (routeLines r).filterMap Mark.ofLine? = routeMarks r := by
  have hcopy : ["  @type copy"].filterMap Mark.ofLine? = [] := by decide
  have hclose : ["</match>"].filterMap Mark.ofLine? = [.leave "match"] := by decide
  have hstores : (r.outputs.flatMap store).filterMap Mark.ofLine?
      = r.outputs.flatMap fun _ => storeMarks := by
    rw [List.filterMap_flatMap]
    exact congrArg r.outputs.flatMap (funext filterMap_ofLine?_store)
  rw [routeLines, List.filterMap_append, List.filterMap_append,
    List.filterMap_cons_some (ofLine?_header h), hcopy, hclose, hstores]
  rfl

/-- The marks in a text are those of its routes. -/
theorem flatMap_filterMap_blocks (h : ∀ r ∈ t.routes, Text.isToken r.tag = true) :
    (blocks t).flatMap (·.filterMap Mark.ofLine?) = marks t := by
  have hsource : source.filterMap Mark.ofLine? = [.enter "source" "", .leave "source"] := by decide
  have hfilter : timestampCheck.filterMap Mark.ofLine? = [.enter "filter" "**", .leave "filter"] := by
    decide
  have hroutes : (t.routes.map routeLines).flatMap (·.filterMap Mark.ofLine?)
      = t.routes.flatMap routeMarks := by
    rw [List.flatMap_map, List.flatMap_def, List.flatMap_def]
    exact congrArg List.flatten
      (List.map_congr_left fun r hr => filterMap_ofLine?_routeLines (h r hr))
  rw [blocks, List.flatMap_cons, List.flatMap_cons, hsource, hfilter, hroutes]
  rfl

/-- **The marks of the configuration nest.** -/
theorem wellNested_marks (t : RoutingTable) : WellNested (marks t) := by
  have hstore : WellNested storeMarks := WellNested.nil.wrap
  have hroute (r : Route) : WellNested (routeMarks r) :=
    (WellNested.flatMap fun _ _ => hstore).wrap
  exact (WellNested.nil.wrap.append WellNested.nil.wrap).append
    (WellNested.flatMap fun r _ => hroute r)

end Aggregator

/-! ## Reading -/

namespace RoutingTable

variable {t : RoutingTable}

/-- **The lines of the aggregator's text.** -/
theorem lines_aggregator (h : t.WellFormed) :
    Text.lines (t.compile .aggregator) = Text.spaced (Aggregator.blocks t) := by
  refine Text.lines_unlines (Text.oneLine_of_mem_spaced fun b hb l hl => ?_)
  exact (Aggregator.isBlockLine_of_mem_blocks (fun r hr => (h.routes r hr).oneLine) b hb l hl).1

/-- **The blocks of the aggregator's text.** -/
theorem blocks_aggregator (h : t.WellFormed) :
    Text.blocks (Text.lines (t.compile .aggregator)) = Aggregator.blocks t := by
  have hlines := Aggregator.isBlockLine_of_mem_blocks fun r hr => (h.routes r hr).oneLine
  rw [lines_aggregator h]
  refine Text.blocks_spaced fun b hb => ⟨Aggregator.ne_nil_of_mem_blocks b hb, fun hempty => ?_⟩
  exact (hlines b hb "" hempty).2 rfl

/-- **The marks of the aggregator's text.** -/
theorem readAll_aggregator (h : t.WellFormed) :
    Mark.readAll (t.compile .aggregator) = Aggregator.marks t := by
  rw [Mark.readAll, lines_aggregator h, Text.filterMap_spaced (by decide)]
  exact Aggregator.flatMap_filterMap_blocks fun r hr => (h.routes r hr).token

end RoutingTable

end LogOperator
