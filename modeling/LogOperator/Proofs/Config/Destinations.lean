import LogOperator.Proofs.Config.Determination
import LogOperator.Proofs.Config.Interpolation

/-!
# LogOperator.Proofs.Config.Destinations

Where the aggregator sends the records of a route, and how often.  The stores of a block are read off its
lines (`Aggregator.stores`).  Outputs are listed once each, but two of them that differ in an index which
no store shows are the same destination:

* `Aggregator.stores_routeLines` — the stores of a route's block are those of its outputs;
* `Aggregator.nodup_map_store_iff` — stores are told apart unless two outputs differ in such an index;
* `RoutingTable.stores_distinct_iff` — so the stores of a route of a valid pipeline are pairwise distinct
  exactly if its rules ask for no two indices of what is only printed.
-/

namespace LogOperator

/-! ## Stores of a block -/

namespace Aggregator

variable {o o' : Output} {os : List Output} {ls front : List String}

/-- The line that opens a store. -/
def storeOpen : String := "  <store>"

/-- The line that closes a store. -/
def storeClose : String := "  </store>"

/-- The lines up to the first one that closes a store, and this one. -/
def throughClose (ls : List String) : List String :=
  ls.takeWhile (· ≠ storeClose) ++ (ls.dropWhile (· ≠ storeClose)).take 1

/-- The stores among the lines of a block, each from the line that opens it to the one that closes
it. -/
def stores : List String → List (List String)
  | [] => []
  | l :: ls => if l = storeOpen then (l :: throughClose ls) :: stores ls else stores ls

/-- A block is read up to the first line that closes it. -/
theorem throughClose_append_cons (h : storeClose ∉ front) :
    throughClose (front ++ storeClose :: ls) = front ++ [storeClose] := by
  have hfront : ∀ l ∈ front, decide (l ≠ storeClose) = true := fun l hl =>
    decide_eq_true fun heq => h (heq ▸ hl)
  rw [throughClose, List.takeWhile_append_of_pos hfront, List.dropWhile_append_of_pos hfront,
    List.takeWhile_cons_of_neg (by simp), List.dropWhile_cons_of_neg (by simp), List.append_nil]
  rfl

/-- Lines that open no store say nothing about stores. -/
theorem stores_append (h : storeOpen ∉ front) : stores (front ++ ls) = stores ls := by
  induction front with
  | nil => rfl
  | cons l front ih =>
      obtain ⟨hl, hfront⟩ := List.ne_and_not_mem_of_not_mem_cons h
      rw [List.cons_append, stores, if_neg hl.symm, ih hfront]

/-- The blocks of a text are that of its first output and those of the rest. -/
theorem stores_store_append (o : Output) (ls : List String) :
    stores (store o ++ ls) = store o :: stores ls := by
  have hclose : storeClose ∉ (parameters o).map ("    " ++ ·) :=
    List.not_mem_of_not_mem_cons (close_not_mem_parameters o)
  have hbody : storeOpen ∉ (parameters o).map ("    " ++ ·) ++ [storeClose] := by
    rw [List.mem_append]
    rintro (h | h)
    · exact absurd (indent_of_mem_parameters h) (by decide)
    · exact absurd h (by decide)
  have hlines : store o ++ ls
      = storeOpen :: ((parameters o).map ("    " ++ ·) ++ storeClose :: ls) := store_append o ls
  have hrest : stores ((parameters o).map ("    " ++ ·) ++ storeClose :: ls) = stores ls := by
    rw [List.append_cons]
    exact stores_append hbody
  rw [hlines, stores, if_pos rfl, throughClose_append_cons hclose, hrest]
  rfl

/-- **The stores of a route's block** are those of its outputs, in order. -/
theorem stores_routeLines (r : Route) : stores (routeLines r) = r.outputs.map store := by
  have hheader : storeOpen ∉ ["<match " ++ r.tag ++ "**>", "  @type copy"] := by
    intro h
    rcases List.mem_cons.1 h with h | h
    · have hchars := congrArg (·.toList[0]?) h
      simp [storeOpen, String.toList_append] at hchars
    · exact absurd h (by decide)
  have houtputs (os : List Output) :
      stores (os.flatMap store ++ ["</match>"]) = os.map store := by
    induction os with
    | nil => rfl
    | cons o os ih =>
        rw [List.flatMap_cons, List.append_assoc, stores_store_append, ih, List.map_cons]
  rw [routeLines, List.append_assoc, stores_append hheader, houtputs]

/-! ## Stores of one text -/

/-- Two outputs are written alike exactly if they are the same to the aggregator. -/
theorem store_eq_iff : store o = store o' ↔ o.Same o' := by
  refine ⟨fun h => ?_, store_eq_of_same⟩
  rw [← parameters_eq_iff]
  have hbody : (parameters o).map ("    " ++ ·) = (parameters o').map ("    " ++ ·) :=
    List.append_cancel_right (List.cons.inj h).2
  exact (List.map_inj_right fun _ _ => String.append_right_inj _ |>.1).1 hbody

/-- Outputs whose stores cannot be told apart are equal or only print records. -/
theorem eq_or_stdout_of_same (h : o.Same o') : o = o' ∨ o.sink = .stdout ∧ o'.sink = .stdout := by
  obtain ⟨sink, index⟩ := o
  obtain ⟨sink', index'⟩ := o'
  obtain ⟨rfl, hindex⟩ := h
  cases sink with
  | searchEngine => exact .inl (congrArg (Output.mk _) (hindex rfl))
  | stdout => exact .inr ⟨rfl, rfl⟩

/-- **Different outputs have different stores** unless they only print records. -/
theorem nodup_map_store_iff (hos : os.Nodup) : (os.map store).Nodup ↔
    ∀ o ∈ os, ∀ o' ∈ os, o.sink = .stdout → o'.sink = .stdout → o.indexPattern = o'.indexPattern := by
  rw [List.nodup_map_iff_inj_on hos]
  constructor
  · intro h o ho o' ho' hsink hsink'
    have hsame : o.Same o' := ⟨hsink.trans hsink'.symm, fun hsearch => by
      rw [hsink] at hsearch
      contradiction⟩
    rw [h o ho o' ho' (store_eq_iff.2 hsame)]
  · intro h o ho o' ho' hstore
    have hsame := store_eq_iff.1 hstore
    rcases eq_or_stdout_of_same hsame with heq | ⟨hsink, hsink'⟩
    · exact heq
    · obtain ⟨sink, index⟩ := o
      obtain ⟨sink', index'⟩ := o'
      exact Output.mk.injEq .. ▸ ⟨hsame.sink, h _ ho _ ho' hsink hsink'⟩

end Aggregator

/-! ## Stores of a route -/

namespace Route

variable {ps : List LogParser} {tag : String} {rules : List WatchRule} {o : Output}

/-- A route names no output twice. -/
theorem nodup_outputs (ps : List LogParser) (tag : String) (rules : List WatchRule) :
    (ofRules ps tag rules).outputs.Nodup :=
  Spec.nodup_distinct _

/-- What only prints records is not given an index. -/
theorem resolve_of_stdout (hsink : o.sink = .stdout) : o.resolve tag = o := by
  unfold Output.resolve
  rw [if_neg fun h => ?_]
  rw [hsink] at h
  exact absurd h.1 (by decide)

/-- What is printed for a tag is printed because a rule of the tag says so. -/
theorem mem_outputs_of_stdout (hsink : o.sink = .stdout) :
    o ∈ (ofRules ps tag rules).outputs ↔ o ∈ rules.flatMap (·.outputs) := by
  rw [ofRules, Spec.mem_distinct, List.mem_map]
  constructor
  · rintro ⟨asked, hasked, rfl⟩
    rw [sink_resolve] at hsink
    rw [resolve_of_stdout hsink]
    exact hasked
  · exact fun ho => ⟨o, ho, resolve_of_stdout hsink⟩

/-- The stores of a route are distinct exactly if its rules ask for no two indices of what is only
printed. -/
theorem nodup_stores_iff : ((ofRules ps tag rules).outputs.map Aggregator.store).Nodup ↔
    ∀ o ∈ rules.flatMap (·.outputs), ∀ o' ∈ rules.flatMap (·.outputs),
      o.sink = .stdout → o'.sink = .stdout → o.indexPattern = o'.indexPattern := by
  rw [Aggregator.nodup_map_store_iff (nodup_outputs ps tag rules)]
  constructor
  · intro h o ho o' ho' hsink hsink'
    exact h o ((mem_outputs_of_stdout hsink).2 ho) o' ((mem_outputs_of_stdout hsink').2 ho') hsink
      hsink'
  · intro h o ho o' ho' hsink hsink'
    exact h o ((mem_outputs_of_stdout hsink).1 ho) o' ((mem_outputs_of_stdout hsink').1 ho') hsink
      hsink'

/-- The search engine is never sent a record twice under one index. -/
theorem nodup_searchStores : ((ofRules ps tag rules).searchOutputs.map Aggregator.store).Nodup := by
  have hnodup : (ofRules ps tag rules).searchOutputs.Nodup :=
    (nodup_outputs ps tag rules).filter _
  refine (Aggregator.nodup_map_store_iff hnodup).2 fun o ho _ _ hsink => ?_
  have hsearch : o.sink = .searchEngine := by simpa using (List.mem_filter.1 ho).2
  rw [hsink] at hsearch
  contradiction

end Route

/-! ## Tables -/

namespace RoutingTable

variable {t : RoutingTable} {p : Pipeline} {v : ValidPipeline}

/-- The stores of the text, block by block: only the blocks of routes have some. -/
theorem stores_compile (h : t.WellFormed) :
    (Text.blocks (Text.lines (t.compile .aggregator))).map Aggregator.stores
      = [] :: [] :: t.routes.map fun r => r.outputs.map Aggregator.store := by
  have hsource : Aggregator.stores Aggregator.source = [] := by decide
  have hcheck : Aggregator.stores Aggregator.timestampCheck = [] := by decide
  rw [blocks_aggregator h, Aggregator.blocks, List.map_cons, List.map_cons, hsource, hcheck,
    List.map_map]
  exact congrArg (fun ss => [] :: [] :: ss) (List.map_congr_left fun r _ =>
    Aggregator.stores_routeLines r)

/-- **Which destinations are written twice.**  In the aggregator's text of a valid pipeline, the block of
each route has a store for every output of the route.  These stores are pairwise distinct exactly if all
outputs of the route's rules that only print records have the same index, which no store shows; those
for the search engine are pairwise distinct in any case. -/
theorem stores_distinct_iff (hv : p.validate = .ok v) :
    (Text.blocks (Text.lines ((ofValid v).compile .aggregator))).map Aggregator.stores
      = [] :: [] :: (ofValid v).routes.map (fun r => r.outputs.map Aggregator.store) ∧
    ∀ r ∈ (ofValid v).routes,
      ((r.outputs.map Aggregator.store).Nodup ↔
        ∀ o ∈ (v.spec.rulesOf r.tag).flatMap (·.outputs),
          ∀ o' ∈ (v.spec.rulesOf r.tag).flatMap (·.outputs),
            o.sink = .stdout → o'.sink = .stdout → o.indexPattern = o'.indexPattern) ∧
      (r.searchOutputs.map Aggregator.store).Nodup := by
  refine ⟨stores_compile (wellFormed_ofValid hv), List.forall_mem_map.2 fun tag _ => ?_⟩
  exact ⟨Route.nodup_stores_iff, Route.nodup_searchStores⟩

/-- Two teams, one of whose rules ask for the same index of what they print. -/
theorem stores_distinct_iff_teamsNoted :
    Pipeline.teamsNoted.validate = .ok Pipeline.teamsNoted.validated ∧
    ∃ r ∈ (ofValid Pipeline.teamsNoted.validated).routes, r.tag = "shop.web" ∧
      ["  <store>", "    @type stdout", "  </store>"] ∈ r.outputs.map Aggregator.store ∧
      (r.outputs.map Aggregator.store).Nodup := by
  have hroute : Route.ofRules Pipeline.teamsNoted.spec.parsers "shop.web"
      (Pipeline.teamsNoted.validated.spec.rulesOf "shop.web")
        ∈ (ofValid Pipeline.teamsNoted.validated).routes :=
    List.mem_map.2 ⟨"shop.web", by decide +kernel, rfl⟩
  obtain ⟨-, hdistinct⟩ := stores_distinct_iff Pipeline.validate_teamsNoted
  exact ⟨Pipeline.validate_teamsNoted, _, hroute, rfl, by decide +kernel,
    (hdistinct _ hroute).1.2 (by decide +kernel)⟩

end RoutingTable

namespace Pipeline

/-- A pipeline with one rule, which asks twice to print its records, once with an index. -/
def printedTwice : Pipeline where
  metadata := { Metadata.empty with name := some "main", ns := some "logging" }
  spec := { Spec.blank with
    ns := "logging"
    version := "7.10.2"
    parsers := [⟨"json", "^(?<log>.*)$"⟩]
    watch := [⟨"checkout", "", [], ["json"], [⟨.stdout, ""⟩, ⟨.stdout, "audit"⟩]⟩]
    searchEngine := ⟨false, "search.example.com", some 9200, false⟩ }

theorem validate_printedTwice : printedTwice.validate = .ok printedTwice.validated :=
  validate_of_violations (by decide +kernel)

/-- The pipeline is valid, and a block of its text has the same store twice. -/
theorem store_repeated_printedTwice : printedTwice.validate = .ok printedTwice.validated ∧
    ∃ block ∈ Text.blocks (Text.lines
        ((RoutingTable.ofValid printedTwice.validated).compile .aggregator)),
      Aggregator.stores block = [["  <store>", "    @type stdout", "  </store>"],
        ["  <store>", "    @type stdout", "  </store>"]] ∧
      ¬ (Aggregator.stores block).Nodup := by
  have hstores := RoutingTable.stores_compile (RoutingTable.wellFormed_ofValid validate_printedTwice)
  have hroutes : (RoutingTable.ofValid printedTwice.validated).routes.map
      (fun r => r.outputs.map Aggregator.store)
        = [[["  <store>", "    @type stdout", "  </store>"],
            ["  <store>", "    @type stdout", "  </store>"]]] := by decide +kernel
  rw [hroutes] at hstores
  obtain ⟨block, hblock, hsame⟩ := List.mem_map.1 (hstores ▸ List.mem_cons_of_mem _
    (List.mem_cons_of_mem _ List.mem_cons_self))
  refine ⟨validate_printedTwice, block, hblock, hsame, ?_⟩
  rw [hsame]
  decide

end Pipeline

end LogOperator
