import LogOperator.Pipeline.Validation

/-!
# LogOperator.Proofs.Pipeline.WellFormed

What a valid pipeline can be relied on for, said without the checks.  Each check of a specification
finds nothing exactly if its part is well-formed:

* `Spec.checkParsers_eq_nil_iff`, `Spec.checkRule_eq_nil_iff`, `Spec.checkTags_eq_nil_iff`,
  `Spec.checkSearchEngine_eq_nil_iff` — the checks, one by one;
* `Spec.violations_eq_nil_iff` — all of them together (`Spec.WellFormed`);
* `Pipeline.wellFormed_of_validate` — the specification of a valid pipeline, with its defaults.
-/

namespace LogOperator

/-! ## Well-formed specifications -/

/-- The names of parsers, in order. -/
def LogParser.names (ps : List LogParser) : List String :=
  ps.map (·.name)

@[simp] theorem LogParser.names_cons (p : LogParser) (ps : List LogParser) :
    names (p :: ps) = p.name :: names ps := rfl

@[simp] theorem LogParser.mem_names {ps : List LogParser} {name : String} :
    name ∈ names ps ↔ ∃ p ∈ ps, p.name = name :=
  List.mem_map

/-- The name is a token of the pipeline's own and the pattern is a line of text. -/
structure LogParser.WellFormed (p : LogParser) : Prop where
  token : Text.isToken p.name = true
  ne_runtime : p.name ≠ Spec.runtimeParser
  pattern_ne : p.pattern ≠ ""
  pattern : Text.hasControl p.pattern = false

/-- What a rule names is well-formed, and its parsers are among the defined ones. -/
structure WatchRule.WellFormed (defined : List String) (r : WatchRule) : Prop where
  ns : Text.isDnsLabel r.ns = true
  tag : r.tag ≠ "" → Text.isToken r.tag = true
  deployments : ∀ d ∈ r.deployments, Text.isDnsSubdomain d = true
  parsers_ne : r.parsers ≠ []
  outputs_ne : r.outputs ≠ []
  parsers : ∀ name ∈ r.parsers, name ∈ defined
  outputs : ∀ o ∈ r.outputs, Text.hasBlankOrControl o.indexPattern = false

/-- The search engine is provided, or a host and a port are named. -/
def SearchEngine.WellFormed (e : SearchEngine) : Prop :=
  e.required = false → Text.isAllBlank e.host = false ∧ e.port.isSome = true

/-- What a specification says is well-formed, wherever its components are put. -/
structure Spec.WellFormed (s : Spec) : Prop where
  logfile : Text.hasControl s.collectorLogfile = false
  parsers_ne : s.parsers ≠ []
  parsers : ∀ p ∈ s.parsers, p.WellFormed
  names : (LogParser.names s.parsers).Nodup
  version : Text.isAllBlank s.version = false
  watch : ∀ r ∈ s.watch, r.WellFormed (LogParser.names s.parsers)
  tags : ∀ tag ∈ s.tags, ∀ shorter ∈ s.tags, tag ≠ "" → shorter ≠ "" →
    shorter.toList <+: tag.toList → shorter = tag
  searchEngine : s.searchEngine.WellFormed

/-! ## Each check -/

namespace Spec

variable {s : Spec} {p : LogParser} {ps : List LogParser} {r : WatchRule} {e : SearchEngine}
  {defined earlier : List String} {index : Nat}

/-- Nothing is reported where the condition is not met. -/
@[simp] theorem report_eq_nil_iff {condition : Bool} {x : Violation} :
    report condition x = [] ↔ condition = false := by
  cases condition <;> simp [report]

@[simp] theorem mem_distinct {α : Type} [DecidableEq α] {a : α} {l : List α} :
    a ∈ distinct l ↔ a ∈ l :=
  List.mem_eraseDups

theorem checkParser_eq_nil_iff :
    checkParser index earlier p = [] ↔ p.WellFormed ∧ p.name ∉ earlier := by
  unfold checkParser
  by_cases hempty : p.name = ""
  · rw [if_pos hempty]
    refine ⟨nofun, fun h => ?_⟩
    have htoken := h.1.token
    rw [hempty] at htoken
    contradiction
  · rw [if_neg hempty]
    by_cases hruntime : p.name = runtimeParser
    · rw [if_pos hruntime]
      exact ⟨nofun, fun h => absurd hruntime h.1.ne_runtime⟩
    · rw [if_neg hruntime]
      by_cases hpattern : p.pattern = ""
      · rw [if_pos hpattern]
        refine ⟨fun h => ?_, fun h => absurd hpattern h.1.pattern_ne⟩
        simp at h
      · rw [if_neg hpattern]
        simp only [List.append_eq_nil_iff, report_eq_nil_iff, Bool.not_eq_false',
          List.contains_eq_mem, decide_eq_false_iff_not]
        exact ⟨fun h => ⟨⟨h.1.1, hruntime, hpattern, h.2⟩, h.1.2⟩,
          fun h => ⟨⟨h.1.token, h.2⟩, h.1.pattern⟩⟩

/-- The names checked before are those of earlier parsers, so none is met twice. -/
theorem checkParsersFrom_eq_nil_iff : checkParsersFrom index earlier ps = [] ↔
    (∀ p ∈ ps, p.WellFormed) ∧ (LogParser.names ps).Nodup ∧ ∀ p ∈ ps, p.name ∉ earlier := by
  induction ps generalizing index earlier with
  | nil => simp [checkParsersFrom, LogParser.names]
  | cons p ps ih =>
      rw [checkParsersFrom, List.append_eq_nil_iff, checkParser_eq_nil_iff, ih,
        List.forall_mem_cons, List.forall_mem_cons, LogParser.names_cons, List.nodup_cons,
        LogParser.mem_names]
      constructor
      · rintro ⟨⟨hp, hfree⟩, hps, hnodup, hlater⟩
        simp only [List.mem_cons, not_or] at hlater
        refine ⟨⟨hp, hps⟩, ⟨?_, hnodup⟩, hfree, fun q hq => (hlater q hq).2⟩
        rintro ⟨q, hq, hname⟩
        exact (hlater q hq).1 hname
      · rintro ⟨⟨hp, hps⟩, ⟨hnew, hnodup⟩, hfree, hlater⟩
        refine ⟨⟨hp, hfree⟩, hps, hnodup, fun q hq hmem => ?_⟩
        rcases List.mem_cons.1 hmem with hname | hmem
        · exact hnew ⟨q, hq, hname⟩
        · exact hlater q hq hmem

/-- Nothing is reported of the parsers exactly if there are some, each is well-formed, and no name
is used twice. -/
theorem checkParsers_eq_nil_iff : s.checkParsers = [] ↔
    s.parsers ≠ [] ∧ (∀ p ∈ s.parsers, p.WellFormed) ∧ (LogParser.names s.parsers).Nodup := by
  unfold checkParsers
  cases hps : s.parsers with
  | nil => simp
  | cons p ps => simp [checkParsersFrom_eq_nil_iff]

theorem checkRule_eq_nil_iff : checkRule defined index r = [] ↔ r.WellFormed defined := by
  have hns : (if r.ns = "" then [Violation.watchMissingNamespace index]
      else report (!Text.isDnsLabel r.ns) (.invalidWatchNamespace index r.ns)) = [] ↔
      Text.isDnsLabel r.ns = true := by
    split
    · next hempty =>
        rw [hempty]
        exact ⟨nofun, nofun⟩
    · simp
  simp only [checkRule, List.append_eq_nil_iff, hns, report_eq_nil_iff, List.map_eq_nil_iff,
    List.filter_eq_nil_iff, mem_distinct, List.isEmpty_eq_false_iff, List.contains_eq_mem]
  constructor
  · rintro ⟨⟨⟨⟨⟨⟨hns, htag⟩, hdeployments⟩, hparsers⟩, houtputs⟩, hdefined⟩, hpatterns⟩
    exact ⟨hns, by simpa using htag, by simpa using hdeployments, hparsers, houtputs,
      by simpa using hdefined, by simpa using hpatterns⟩
  · intro h
    exact ⟨⟨⟨⟨⟨⟨h.ns, by simpa using h.tag⟩, by simpa using h.deployments⟩, h.parsers_ne⟩,
      h.outputs_ne⟩, by simpa using h.parsers⟩, by simpa using h.outputs⟩

theorem checkWatch_eq_nil_iff :
    s.checkWatch = [] ↔ ∀ r ∈ s.watch, r.WellFormed (LogParser.names s.parsers) := by
  simp only [checkWatch, List.flatten_eq_nil_iff, List.forall_mem_map, checkRule_eq_nil_iff]
  constructor
  · intro h r hr
    rw [← List.zipIdx_map_fst 0 s.watch] at hr
    obtain ⟨x, hx, rfl⟩ := List.mem_map.1 hr
    exact h x hx
  · exact fun h x hx => h x.1 (List.fst_mem_of_mem_zipIdx hx)

/-- Nothing is reported of the tags exactly if none is a proper beginning of another. -/
theorem checkTags_eq_nil_iff : s.checkTags = [] ↔
    ∀ tag ∈ s.tags, ∀ shorter ∈ s.tags, tag ≠ "" → shorter ≠ "" →
      shorter.toList <+: tag.toList → shorter = tag := by
  simp only [checkTags, List.flatMap_eq_nil_iff, List.map_eq_nil_iff, List.filter_eq_nil_iff,
    List.mem_filter, bne_iff_ne, continues, Bool.and_eq_true, List.isPrefixOf_iff_prefix]
  constructor
  · intro h tag ht shorter hs htag hshorter hstarts
    exact Decidable.byContradiction fun hne =>
      h tag ⟨ht, htag⟩ shorter ⟨hs, hshorter⟩ ⟨hne, hstarts⟩
  · rintro h tag ⟨ht, htag⟩ shorter ⟨hs, hshorter⟩ ⟨hne, hstarts⟩
    exact hne (h tag ht shorter hs htag hshorter hstarts)

theorem checkSearchEngine_eq_nil_iff : checkSearchEngine e = [] ↔ e.WellFormed := by
  unfold checkSearchEngine SearchEngine.WellFormed
  cases e.required <;> simp

/-! ## All checks -/

/-- **Nothing is reported of exactly the well-formed specifications** with a good target. -/
theorem violations_eq_nil_iff {target : String} :
    s.violations target = [] ↔ checkTarget target = [] ∧ s.WellFormed := by
  simp only [violations, List.append_eq_nil_iff, report_eq_nil_iff, checkParsers_eq_nil_iff,
    checkWatch_eq_nil_iff, checkTags_eq_nil_iff, checkSearchEngine_eq_nil_iff]
  constructor
  · rintro ⟨⟨⟨⟨⟨⟨htarget, hlogfile⟩, hne, hparsers, hnames⟩, hversion⟩, hwatch⟩, htags⟩, hsearch⟩
    exact ⟨htarget, hlogfile, hne, hparsers, hnames, hversion, hwatch, htags, hsearch⟩
  · rintro ⟨htarget, h⟩
    exact ⟨⟨⟨⟨⟨⟨htarget, h.logfile⟩, h.parsers_ne, h.parsers, h.names⟩, h.version⟩, h.watch⟩,
      h.tags⟩, h.searchEngine⟩

/-- Filling in defaults keeps a specification well-formed. -/
theorem WellFormed.fill (h : s.WellFormed) (target : String) : (s.fill target).WellFormed where
  logfile := by
    simp only [Spec.fill]
    split
    · decide
    · exact h.logfile
  parsers_ne := h.parsers_ne
  parsers := h.parsers
  names := h.names
  version := h.version
  watch := h.watch
  tags := h.tags
  searchEngine := h.searchEngine

end Spec

namespace Pipeline

variable {p : Pipeline} {v : ValidPipeline}

/-- A pipeline without violations is valid. -/
theorem validate_of_violations (h : p.violations = []) : p.validate = .ok p.validated :=
  if_pos h

/-- Validation fills in what a pipeline leaves open. -/
theorem eq_validated_of_validate (h : p.validate = .ok v) : p.violations = [] ∧ v = p.validated := by
  rw [validate] at h
  split at h
  · next hp => exact ⟨hp, (Except.ok.inj h).symm⟩
  · contradiction

/-- **The specification of a valid pipeline is well-formed.** -/
theorem wellFormed_of_validate (h : p.validate = .ok v) : v.spec.WellFormed := by
  obtain ⟨hp, rfl⟩ := eq_validated_of_validate h
  exact (Spec.violations_eq_nil_iff.1 hp).2.fill p.target

end Pipeline

end LogOperator
