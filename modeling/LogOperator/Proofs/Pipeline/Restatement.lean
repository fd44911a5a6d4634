import LogOperator.Proofs.Routing.Gathering
import LogOperator.Reconcile.Pass
import Mathlib.Logic.Relation

/-!
# LogOperator.Proofs.Pipeline.Restatement

Pipelines that are written in another way and mean the same.  A rule or an item of a rule may be repeated
behind its first appearance (`Repeats`), and what is left open may be written out: the tag of a rule
and the index of an output.  What is met again is not met for the first time, so none of this is seen
behind the routing table:

* `Repeats.distinct_eq` — items that are met for the first time, whatever is repeated;
* `RoutingTable.ofSpec_eq_of_asksAgain` — rules that ask for the same things make the same table;
* `Pipeline.Restates.step` — one restatement leaves a pipeline valid and its table as it was;
* `Pipeline.restated_unchanged` — after any number of them, texts, desired state and passes are the same.
-/

namespace LogOperator

/-! ## Repetitions -/

/-- Items that stand further to the front are put in again. -/
def Repeats {α : Type} (l l' : List α) : Prop :=
  ∃ xs again ys, again ⊆ xs ∧ l = xs ++ ys ∧ l' = xs ++ again ++ ys

namespace Repeats

variable {α β : Type} {l l' : List α} {a : α}

theorem refl (l : List α) : Repeats l l :=
  ⟨l, [], [], List.nil_subset l, by simp, by simp⟩

/-- What is repeated has the same members. -/
theorem mem_iff (h : Repeats l l') : a ∈ l' ↔ a ∈ l := by
  obtain ⟨xs, again, ys, hagain, rfl, rfl⟩ := h
  simp only [List.mem_append]
  constructor
  · rintro ((hx | hx) | hy)
    · exact .inl hx
    · exact .inl (hagain hx)
    · exact .inr hy
  · exact Or.imp_left .inl

theorem ne_nil (h : Repeats l l') (hl : l ≠ []) : l' ≠ [] := by
  obtain ⟨a, ha⟩ := List.exists_mem_of_ne_nil l hl
  exact List.ne_nil_of_mem (h.mem_iff.2 ha)

theorem map (h : Repeats l l') (f : α → β) : Repeats (l.map f) (l'.map f) := by
  obtain ⟨xs, again, ys, hagain, rfl, rfl⟩ := h
  exact ⟨xs.map f, again.map f, ys.map f, List.map_subset f hagain, by simp, by simp⟩

theorem filter (h : Repeats l l') (f : α → Bool) : Repeats (l.filter f) (l'.filter f) := by
  obtain ⟨xs, again, ys, hagain, rfl, rfl⟩ := h
  exact ⟨xs.filter f, again.filter f, ys.filter f, List.filter_subset f hagain, by simp, by simp⟩

theorem flatMap (h : Repeats l l') (f : α → List β) : Repeats (l.flatMap f) (l'.flatMap f) := by
  obtain ⟨xs, again, ys, hagain, rfl, rfl⟩ := h
  refine ⟨xs.flatMap f, again.flatMap f, ys.flatMap f, fun b hb => ?_, by simp, by simp⟩
  obtain ⟨a, ha, hb⟩ := List.mem_flatMap.1 hb
  exact List.mem_flatMap.2 ⟨a, hagain ha, hb⟩

/-- What is repeated in a part is repeated in the whole. -/
theorem context (h : Repeats l l') (front back : List α) :
    Repeats (front ++ l ++ back) (front ++ l' ++ back) := by
  obtain ⟨xs, again, ys, hagain, rfl, rfl⟩ := h
  exact ⟨front ++ xs, again, ys ++ back, List.subset_append_of_subset_right front hagain,
    by simp, by simp⟩

/-- **Items that are met again are not met for the first time.** -/
theorem distinct_eq [DecidableEq α] (h : Repeats l l') : Spec.distinct l' = Spec.distinct l := by
  obtain ⟨xs, again, ys, hagain, rfl, rfl⟩ := h
  have hnone : again.removeAll xs = [] := by
    rw [List.removeAll, List.filter_eq_nil_iff]
    intro a ha
    simpa using hagain ha
  have hsame : ys.removeAll (xs ++ again) = ys.removeAll xs := by
    refine List.filter_congr fun y _ => ?_
    have hmem : y ∈ xs ++ again ↔ y ∈ xs := by
      rw [List.mem_append]
      exact ⟨fun hy => hy.elim id fun hy => hagain hy, .inl⟩
    simp only [List.elem_eq_mem, decide_eq_decide.2 hmem]
  have hfirst : (xs ++ again).eraseDups = xs.eraseDups := by
    rw [List.eraseDups_append, hnone, List.eraseDups_nil, List.append_nil]
  simp only [Spec.distinct]
  rw [List.eraseDups_append, hsame, hfirst, ← List.eraseDups_append]

end Repeats

/-! ## Rules -/

namespace WatchRule

variable {r r' : WatchRule} {defined : List String}

/-- The rule, written in another way: a deployment, parser or output is repeated, or the tag or the
index that is meant is written out. -/
inductive Restates (r : WatchRule) : WatchRule → Prop where
  | deployments {ds : List String} (h : Repeats r.deployments ds) :
      Restates r { r with deployments := ds }
  | parsers {names : List String} (h : Repeats r.parsers names) : Restates r { r with parsers := names }
  | outputs {os : List Output} (h : Repeats r.outputs os) : Restates r { r with outputs := os }
  | tag (h : r.tag = "") : Restates r { r with tag := r.ns }
  | indexPattern {before after : List Output}
      (h : r.outputs = before ++ ⟨.searchEngine, ""⟩ :: after) :
      Restates r { r with outputs := before ++ ⟨.searchEngine, r.effectiveTag⟩ :: after }

/-- The second rule asks its route for what the first one asks for, some of it more than once. -/
structure AsksAgain (r r' : WatchRule) : Prop where
  tag : r'.effectiveTag = r.effectiveTag
  globs : Repeats r.globs r'.globs
  parsers : Repeats r.parsers r'.parsers
  outputs : Repeats (r.outputs.map (Output.resolve r.effectiveTag))
    (r'.outputs.map (Output.resolve r.effectiveTag))

/-- Without deployments there is none to repeat. -/
theorem repeats_globs {ds : List String} (h : Repeats r.deployments ds) :
    Repeats r.globs { r with deployments := ds }.globs := by
  have hempty : ds.isEmpty = r.deployments.isEmpty := by
    rw [Bool.eq_iff_iff, List.isEmpty_iff, List.isEmpty_iff]
    constructor
    · rintro rfl
      exact List.eq_nil_iff_forall_not_mem.2 fun d hd => List.not_mem_nil (h.mem_iff.2 hd)
    · intro hnil
      exact List.eq_nil_iff_forall_not_mem.2 fun d hd => List.not_mem_nil (hnil ▸ h.mem_iff.1 hd)
  unfold globs
  rw [hempty]
  split
  · exact .refl _
  · exact h.map _

/-- An index that is written out is the one that the output is given otherwise. -/
theorem resolve_written (tag : String) :
    Output.resolve tag ⟨.searchEngine, tag⟩ = Output.resolve tag ⟨.searchEngine, ""⟩ := by
  by_cases htag : tag = ""
  · rw [htag]
  · simp [Output.resolve, htag]

/-- A restated rule asks for the same again. -/
theorem Restates.asksAgain (h : r.Restates r') : r.AsksAgain r' := by
  cases h with
  | deployments h => exact ⟨rfl, repeats_globs h, .refl _, .refl _⟩
  | parsers h => exact ⟨rfl, .refl _, h, .refl _⟩
  | outputs h => exact ⟨rfl, .refl _, .refl _, h.map _⟩
  | tag h =>
      refine ⟨?_, .refl _, .refl _, .refl _⟩
      simp only [effectiveTag, h, if_true, ite_self]
  | indexPattern h =>
      refine ⟨rfl, .refl _, .refl _, ?_⟩
      rw [h, List.map_append, List.map_append, List.map_cons, List.map_cons, resolve_written]
      exact .refl _

/-- A rule that is written in another way stays well-formed. -/
theorem Restates.wellFormed (h : r.Restates r') (hr : r.WellFormed defined) :
    r'.WellFormed defined := by
  cases h with
  | deployments h => exact { hr with deployments := fun d hd => hr.deployments d (h.mem_iff.1 hd) }
  | parsers h =>
      exact { hr with
        parsers_ne := h.ne_nil hr.parsers_ne
        parsers := fun name hname => hr.parsers name (h.mem_iff.1 hname) }
  | outputs h =>
      exact { hr with
        outputs_ne := h.ne_nil hr.outputs_ne
        outputs := fun o ho => hr.outputs o (h.mem_iff.1 ho) }
  | tag h => exact { hr with tag := fun _ => Text.isToken_of_isDnsLabel hr.ns }
  | indexPattern h =>
      have houtputs := hr.outputs
      rw [h, List.forall_mem_append, List.forall_mem_cons] at houtputs
      refine { hr with outputs_ne := by simp, outputs := ?_ }
      rw [List.forall_mem_append, List.forall_mem_cons]
      exact ⟨houtputs.1, Text.hasBlankOrControl_of_isToken hr.isToken_effectiveTag, houtputs.2.2⟩

end WatchRule

/-! ## Lists of rules -/

/-- Tag by tag, the second rules ask for what the first ones ask for, some of it more than once. -/
structure Spec.AsksAgain (watch watch' : List WatchRule) : Prop where
  tags : Repeats (watch.map (·.effectiveTag)) (watch'.map (·.effectiveTag))
  globs : ∀ tag, Repeats ((watch.filter (·.effectiveTag = tag)).flatMap (·.globs))
    ((watch'.filter (·.effectiveTag = tag)).flatMap (·.globs))
  parsers : ∀ tag, Repeats ((watch.filter (·.effectiveTag = tag)).flatMap (·.parsers))
    ((watch'.filter (·.effectiveTag = tag)).flatMap (·.parsers))
  outputs : ∀ tag,
    Repeats (((watch.filter (·.effectiveTag = tag)).flatMap (·.outputs)).map (Output.resolve tag))
      (((watch'.filter (·.effectiveTag = tag)).flatMap (·.outputs)).map (Output.resolve tag))

namespace Spec

variable {watch watch' before after : List WatchRule} {r r' : WatchRule} {s : Spec}

/-- Rules that are repeated ask for the same things again. -/
theorem asksAgain_of_repeats (h : Repeats watch watch') : AsksAgain watch watch' where
  tags := h.map _
  globs _ := (h.filter _).flatMap _
  parsers _ := (h.filter _).flatMap _
  outputs _ := ((h.filter _).flatMap _).map _

/-- What one rule asks for again, the rules of its tag ask for again. -/
theorem repeats_flatMap_filter {α : Type} {f : WatchRule → List α} {tag : String}
    (htag : r'.effectiveTag = r.effectiveTag)
    (hf : r.effectiveTag = tag → Repeats (f r) (f r')) :
    Repeats (((before ++ r :: after).filter (·.effectiveTag = tag)).flatMap f)
      (((before ++ r' :: after).filter (·.effectiveTag = tag)).flatMap f) := by
  by_cases hr : r.effectiveTag = tag
  · simp only [List.filter_append, List.filter_cons, htag, hr, decide_true, if_true,
      List.flatMap_append, List.flatMap_cons, ← List.append_assoc]
    exact (hf hr).context _ _
  · simp only [List.filter_append, List.filter_cons, htag, hr, decide_false]
    exact .refl _

/-- A list of rules of which one is restated asks for the same. -/
theorem asksAgain_of_rule (h : r.AsksAgain r') :
    AsksAgain (before ++ r :: after) (before ++ r' :: after) where
  tags := by
    rw [List.map_append, List.map_append, List.map_cons, List.map_cons, h.tag]
    exact .refl _
  globs _ := repeats_flatMap_filter h.tag fun _ => h.globs
  parsers _ := repeats_flatMap_filter h.tag fun _ => h.parsers
  outputs tag := by
    rw [List.map_flatMap, List.map_flatMap]
    refine repeats_flatMap_filter h.tag ?_
    rintro rfl
    exact h.outputs

/-- Rules that ask for the same things have the same tags. -/
theorem tags_eq_of_asksAgain (h : AsksAgain s.watch watch) :
    tags { s with watch := watch } = s.tags :=
  h.tags.distinct_eq

/-- A specification stays well-formed with other rules that are well-formed and have the same tags. -/
theorem WellFormed.withWatch (hs : s.WellFormed) (h : AsksAgain s.watch watch)
    (hwatch : ∀ r ∈ watch, r.WellFormed (LogParser.names s.parsers)) :
    WellFormed { s with watch := watch } :=
  { hs with
    watch := hwatch
    tags := by
      rw [tags_eq_of_asksAgain h]
      exact hs.tags }

end Spec

/-- **Rules that ask for the same things make the same table.** -/
theorem RoutingTable.ofSpec_eq_of_asksAgain {s : Spec} {watch : List WatchRule}
    (h : Spec.AsksAgain s.watch watch) : ofSpec { s with watch := watch } = ofSpec s := by
  have hroute (tag : String) : Route.ofRules s.parsers tag (watch.filter (·.effectiveTag = tag))
      = Route.ofRules s.parsers tag (s.watch.filter (·.effectiveTag = tag)) := by
    simp only [Route.ofRules, (h.globs tag).distinct_eq, (h.parsers tag).distinct_eq,
      (h.outputs tag).distinct_eq]
  simp only [ofSpec, Spec.tags_eq_of_asksAgain h, hroute]

/-! ## Pipelines -/

/-- The pipeline with other rules. -/
def Pipeline.withWatch (p : Pipeline) (watch : List WatchRule) : Pipeline :=
  { p with spec := { p.spec with watch := watch } }

/-- The valid pipeline with other rules. -/
def ValidPipeline.withWatch (v : ValidPipeline) (watch : List WatchRule) : ValidPipeline :=
  { v with spec := { v.spec with watch := watch } }

/-- The pipeline, written in another way: rules are put in again behind their first appearance, or one
rule is written in another way. -/
inductive Pipeline.Restates (p : Pipeline) : Pipeline → Prop where
  | copy {watch : List WatchRule} (h : Repeats p.spec.watch watch) : Restates p (p.withWatch watch)
  | rule {before after : List WatchRule} {r r' : WatchRule}
      (hwatch : p.spec.watch = before ++ r :: after) (h : r.Restates r') :
      Restates p (p.withWatch (before ++ r' :: after))

section

variable {v : ValidPipeline} {watch : List WatchRule}

/-- Rules are seen by nothing but the routing table. -/
theorem DesiredState.build_withWatch
    (h : RoutingTable.ofValid (v.withWatch watch) = RoutingTable.ofValid v) (e : Endpoint)
    (images : Images) : build (v.withWatch watch) e images = build v e images := by
  simp only [build, consumers, h]
  rfl

/-- A pass does the same for rules that make the same table. -/
theorem Cluster.reconcileValid_withWatch
    (h : RoutingTable.ofValid (v.withWatch watch) = RoutingTable.ofValid v) (c : Cluster)
    (s : Settings) : c.reconcileValid s (v.withWatch watch) = c.reconcileValid s v := by
  simp only [reconcileValid, DesiredState.build_withWatch h]
  rfl

end

namespace Pipeline

variable {p p' : Pipeline} {v : ValidPipeline}

/-- The rules of a restated pipeline ask for the same things and are well-formed. -/
theorem Restates.exists_watch (hs : p.spec.WellFormed) (h : p.Restates p') :
    ∃ watch, p' = p.withWatch watch ∧ Spec.AsksAgain p.spec.watch watch ∧
      ∀ r ∈ watch, r.WellFormed (LogParser.names p.spec.parsers) := by
  cases h with
  | copy h =>
      exact ⟨_, rfl, Spec.asksAgain_of_repeats h, fun r hr => hs.watch r (h.mem_iff.1 hr)⟩
  | rule hwatch h =>
      have hrules := hs.watch
      rw [hwatch, List.forall_mem_append, List.forall_mem_cons] at hrules
      refine ⟨_, rfl, ?_, ?_⟩
      · rw [hwatch]
        exact Spec.asksAgain_of_rule h.asksAgain
      · rw [List.forall_mem_append, List.forall_mem_cons]
        exact ⟨hrules.1, h.wellFormed hrules.2.1, hrules.2.2⟩

/-- **One restatement** leaves a pipeline valid and its routing table as it was. -/
theorem Restates.step (hv : p.validate = .ok v) (h : p.Restates p') :
    ∃ watch, p'.validate = .ok (v.withWatch watch) ∧
      RoutingTable.ofValid (v.withWatch watch) = RoutingTable.ofValid v := by
  obtain ⟨hp, rfl⟩ := eq_validated_of_validate hv
  obtain ⟨htarget, hs⟩ := Spec.violations_eq_nil_iff.1 hp
  obtain ⟨watch, rfl, hasks, hrules⟩ := h.exists_watch hs
  have hvalid : (p.withWatch watch).violations = [] :=
    Spec.violations_eq_nil_iff.2 ⟨htarget, hs.withWatch hasks hrules⟩
  exact ⟨watch, validate_of_violations hvalid, RoutingTable.ofSpec_eq_of_asksAgain hasks⟩

/-- Any number of restatements leave a pipeline valid and its routing table as it was. -/
theorem exists_watch_of_restated (hv : p.validate = .ok v)
    (h : Relation.ReflTransGen Restates p p') :
    ∃ watch, p'.validate = .ok (v.withWatch watch) ∧
      RoutingTable.ofValid (v.withWatch watch) = RoutingTable.ofValid v := by
  induction h with
  | refl => exact ⟨v.spec.watch, hv, rfl⟩
  | tail _ hstep ih =>
      obtain ⟨watch, hvalid, htable⟩ := ih
      obtain ⟨watch', hvalid', htable'⟩ := hstep.step hvalid
      exact ⟨watch', hvalid', htable'.trans htable⟩

/-- **Writing a pipeline in another way changes nothing.**  However often rules, deployments, references
to parsers and outputs are repeated behind their first appearance, and tags and indices that are
meant are written out, the pipeline stays valid, with the same routing table, the same text in every
dialect and the same desired state.  So a pass does and answers on every cluster what it does for the
pipeline as it was written before, and restarts no workload that is left alone then. -/
theorem restated_unchanged (hv : p.validate = .ok v) (h : Relation.ReflTransGen Restates p p') :
    ∃ v', p'.validate = .ok v' ∧ RoutingTable.ofValid v' = RoutingTable.ofValid v ∧
      (∀ d, (RoutingTable.ofValid v').compile d = (RoutingTable.ofValid v).compile d) ∧
      (∀ e images, DesiredState.build v' e images = DesiredState.build v e images) ∧
      ∀ (c : Cluster) (s : Settings), c.reconcile s p' = c.reconcile s p := by
  obtain ⟨watch, hvalid, htable⟩ := exists_watch_of_restated hv h
  refine ⟨_, hvalid, htable, fun d => by rw [htable],
    DesiredState.build_withWatch htable, fun c s => ?_⟩
  simp only [Cluster.reconcile, hv, hvalid]
  exact Cluster.reconcileValid_withWatch htable c s

/-- The pipeline of two teams, with a rule that is written twice, once with a deployment that is named
twice and with the index that is meant. -/
def teamsRestated : Pipeline :=
  teams.withWatch <|
    ⟨"shop", "shop.web", ["api.v2", "cart", "api.v2"], ["nginx", "json"],
      [⟨.searchEngine, "shop.web"⟩, ⟨.stdout, ""⟩]⟩
    :: (teams.spec.watch.tail ++ teams.spec.watch.take 1)

/-- Three steps lead from the one pipeline to the other. -/
theorem restated_teams : Relation.ReflTransGen Restates teams teamsRestated := by
  let named : WatchRule := ⟨"shop", "shop.web", ["api.v2", "cart", "api.v2"], ["nginx", "json"],
    [⟨.searchEngine, ""⟩, ⟨.stdout, ""⟩]⟩
  let rest := teams.spec.watch.tail ++ teams.spec.watch.take 1
  have hcopy : teams.Restates (teams.withWatch (teams.spec.watch ++ teams.spec.watch.take 1)) :=
    .copy ⟨teams.spec.watch, teams.spec.watch.take 1, [], List.take_subset 1 _, by simp, by simp⟩
  have hdeployment : (teams.withWatch (teams.spec.watch ++ teams.spec.watch.take 1)).Restates
      (teams.withWatch ([] ++ named :: rest)) :=
    .rule rfl (.deployments ⟨["api.v2", "cart"], ["api.v2"], [], by decide, rfl, rfl⟩)
  have hindex : (teams.withWatch ([] ++ named :: rest)).Restates (teams.withWatch
      ([] ++ { named with outputs := [] ++ ⟨.searchEngine, "shop.web"⟩ :: [⟨.stdout, ""⟩] } :: rest)) :=
    .rule rfl (.indexPattern rfl)
  exact .head hcopy (.head hdeployment (.single hindex))

/-- The specifications differ, and yet the routing tables are the same. -/
theorem restated_unchanged_teams : teams.validate = .ok teams.validated ∧
    Relation.ReflTransGen Restates teams teamsRestated ∧ teamsRestated.spec ≠ teams.spec ∧
    ∃ v', teamsRestated.validate = .ok v' ∧
      RoutingTable.ofValid v' = RoutingTable.ofValid teams.validated := by
  obtain ⟨v', hvalid, htable, -⟩ := restated_unchanged validate_teams restated_teams
  exact ⟨validate_teams, restated_teams, by decide, v', hvalid, htable⟩

end Pipeline

end LogOperator
