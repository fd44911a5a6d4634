import LogOperator.Proofs.Pipeline.Faults

/-!
# LogOperator.Proofs.Pipeline.Acceptance

Which pipelines validation accepts, said without the checks (`Pipeline.Acceptable`):

* `Pipeline.violations_eq_nil_iff` — nothing is reported of exactly these pipelines;
* `Pipeline.validate_accepts_exactly` — they are accepted, and of any other pipeline everything that
  is wrong is told.
-/

namespace LogOperator

open Text (Label Subdomain Token isBlank isControl)

/-! ## Acceptable pipelines -/

/-- The rule names a namespace, a tag if any, deployments, defined parsers and outputs. -/
structure WatchRule.Acceptable (defined : List String) (r : WatchRule) : Prop where
  ns : Label r.ns.toList
  tag : r.tag = "" ∨ Token r.tag
  deployments : ∀ d ∈ r.deployments, Subdomain d
  parsers_ne : r.parsers ≠ []
  parsers : ∀ name ∈ r.parsers, name ∈ defined
  outputs_ne : r.outputs ≠ []
  indexPatterns : ∀ o ∈ r.outputs, ∀ c ∈ o.indexPattern.toList,
    isBlank c = false ∧ isControl c = false

/-- The parser has a name of its own that can be told apart, and a pattern of one line. -/
structure LogParser.Acceptable (q : LogParser) : Prop where
  token : Token q.name
  ne_reserved : q.name ≠ "json_parser"
  pattern_ne : q.pattern ≠ ""
  pattern : ∀ c ∈ q.pattern.toList, isControl c = false

/-- What a pipeline has to be like. -/
structure Pipeline.Acceptable (p : Pipeline) : Prop where
  target : Label p.target.toList
  target_ne : p.target ≠ "default"
  logfile : ∀ c ∈ p.spec.collectorLogfile.toList, isControl c = false
  parsers_ne : p.spec.parsers ≠ []
  parsers : ∀ q ∈ p.spec.parsers, q.Acceptable
  names : (LogParser.names p.spec.parsers).Nodup
  version : ∃ c ∈ p.spec.version.toList, isBlank c = false
  watch : ∀ r ∈ p.spec.watch, r.Acceptable (LogParser.names p.spec.parsers)
  tags : ∀ r ∈ p.spec.watch, ∀ r' ∈ p.spec.watch,
    r'.effectiveTag.toList <+: r.effectiveTag.toList → r'.effectiveTag = r.effectiveTag
  searchEngine : p.spec.searchEngine.required = true ∨
    (∃ c ∈ p.spec.searchEngine.host.toList, isBlank c = false) ∧
      p.spec.searchEngine.port.isSome = true

/-- The checks of a parser and its acceptance say the same. -/
theorem LogParser.wellFormed_iff {q : LogParser} : q.WellFormed ↔ q.Acceptable := by
  constructor
  · exact fun h => ⟨Text.isToken_iff.1 h.token, h.ne_runtime, h.pattern_ne,
      Text.hasControl_eq_false_iff.1 h.pattern⟩
  · exact fun h => ⟨Text.isToken_iff.2 h.token, h.ne_reserved, h.pattern_ne,
      Text.hasControl_eq_false_iff.2 h.pattern⟩

namespace WatchRule

variable {defined : List String} {r : WatchRule}

/-- So do those of a rule. -/
theorem wellFormed_iff : r.WellFormed defined ↔ r.Acceptable defined := by
  have htag : (r.tag ≠ "" → Text.isToken r.tag = true) ↔ (r.tag = "" ∨ Token r.tag) := by
    rw [Text.isToken_iff, Decidable.or_iff_not_imp_left]
  constructor
  · intro h
    exact ⟨Text.isDnsLabel_iff.1 h.ns, htag.1 h.tag,
      fun d hd => Text.isDnsSubdomain_iff.1 (h.deployments d hd), h.parsers_ne, h.parsers,
      h.outputs_ne, fun o ho => Text.hasBlankOrControl_eq_false_iff.1 (h.outputs o ho)⟩
  · intro h
    exact ⟨Text.isDnsLabel_iff.2 h.ns, htag.2 h.tag,
      fun d hd => Text.isDnsSubdomain_iff.2 (h.deployments d hd), h.parsers_ne, h.outputs_ne,
      h.parsers, fun o ho => Text.hasBlankOrControl_eq_false_iff.2 (h.indexPatterns o ho)⟩

/-- Rules that name a namespace have a tag. -/
theorem Acceptable.effectiveTag_ne (h : r.Acceptable defined) : r.effectiveTag ≠ "" := by
  rw [effectiveTag]
  split
  · intro hns
    exact h.ns.ne_nil (by rw [hns]; rfl)
  · next htag => exact htag

end WatchRule

/-- A search engine is provided, or has a host that is not blank and a port. -/
theorem SearchEngine.wellFormed_iff {e : SearchEngine} : e.WellFormed ↔
    e.required = true ∨ (∃ c ∈ e.host.toList, isBlank c = false) ∧ e.port.isSome = true := by
  rw [WellFormed, Text.isAllBlank_eq_false_iff]
  cases e.required <;> simp

/-- The target has to be a label, and not the default namespace. -/
theorem Spec.checkTarget_eq_nil_iff {target : String} :
    checkTarget target = [] ↔ Label target.toList ∧ target ≠ "default" := by
  unfold checkTarget
  by_cases h : target = forbiddenNamespace
  · rw [if_pos h]
    exact ⟨nofun, fun hvalid => absurd h hvalid.2⟩
  · rw [if_neg h, report_eq_nil_iff, Bool.not_eq_false', Text.isDnsLabel_iff]
    exact (and_iff_left h).symm

/-- **Nothing is reported of exactly the acceptable pipelines.** -/
theorem Pipeline.violations_eq_nil_iff {p : Pipeline} : p.violations = [] ↔ p.Acceptable := by
  rw [violations, Spec.violations_eq_nil_iff, Spec.checkTarget_eq_nil_iff]
  constructor
  · rintro ⟨⟨htarget, hne⟩, h⟩
    have hwatch : ∀ r ∈ p.spec.watch, r.Acceptable (LogParser.names p.spec.parsers) :=
      fun r hr => WatchRule.wellFormed_iff.1 (h.watch r hr)
    exact {
      target := htarget
      target_ne := hne
      logfile := Text.hasControl_eq_false_iff.1 h.logfile
      parsers_ne := h.parsers_ne
      parsers := fun q hq => LogParser.wellFormed_iff.1 (h.parsers q hq)
      names := h.names
      version := Text.isAllBlank_eq_false_iff.1 h.version
      watch := hwatch
      tags := fun r hr r' hr' =>
        h.tags _ (Spec.mem_tags.2 ⟨r, hr, rfl⟩) _ (Spec.mem_tags.2 ⟨r', hr', rfl⟩)
          (hwatch r hr).effectiveTag_ne (hwatch r' hr').effectiveTag_ne
      searchEngine := SearchEngine.wellFormed_iff.1 h.searchEngine }
  · intro h
    refine ⟨⟨h.target, h.target_ne⟩, {
      logfile := Text.hasControl_eq_false_iff.2 h.logfile
      parsers_ne := h.parsers_ne
      parsers := fun q hq => LogParser.wellFormed_iff.2 (h.parsers q hq)
      names := h.names
      version := Text.isAllBlank_eq_false_iff.2 h.version
      watch := fun r hr => WatchRule.wellFormed_iff.2 (h.watch r hr)
      tags := ?_
      searchEngine := SearchEngine.wellFormed_iff.2 h.searchEngine }⟩
    intro tag htag shorter hshorter _ _ hprefix
    obtain ⟨r, hr, rfl⟩ := Spec.mem_tags.1 htag
    obtain ⟨r', hr', rfl⟩ := Spec.mem_tags.1 hshorter
    exact h.tags r hr r' hr' hprefix

/-! ## Validation -/

namespace Pipeline

/-- **Validation accepts exactly the acceptable pipelines.**  Of any other it tells every violation,
and nothing that is none, in the order of the checks. -/
theorem validate_accepts_exactly (p : Pipeline) :
    ((∃ v, p.validate = .ok v) ↔ p.Acceptable) ∧
    ∀ vs, p.validate = .error vs →
      vs ≠ [] ∧ (∀ x, x ∈ vs ↔ p.Faulty x) ∧ vs.Pairwise Violation.Precedes := by
  rw [← violations_eq_nil_iff, validate]
  by_cases h : p.violations = []
  · rw [if_pos h]
    refine ⟨⟨fun _ => h, fun _ => ⟨_, rfl⟩⟩, fun vs herror => ?_⟩
    cases herror
  · rw [if_neg h]
    refine ⟨⟨fun hok => ?_, fun hnil => absurd hnil h⟩, ?_⟩
    · obtain ⟨v, hok⟩ := hok
      cases hok
    · rintro _ ⟨⟩
      exact ⟨h, fun _ => mem_violations_iff, p.pairwise_violations⟩

/-- A pipeline that is wrong in several ways. -/
def disorderly : Pipeline where
  metadata := .empty
  spec := { Spec.blank with
    ns := "default"
    parsers := [⟨"", "^.*$"⟩, ⟨"json", ""⟩]
    watch := [⟨"checkout", "", [], ["nginx"], []⟩] }

/-- What is wrong with it. -/
def disorders : List Violation :=
  [.defaultNamespace, .unnamedParser 0, .emptyParserPattern "json", .missingVersion,
   .watchMissingOutputs 0 "checkout", .undefinedParser 0 "nginx", .searchEngineHostMissing,
   .searchEnginePortMissing]

/-- All violations are told, in the order of the checks. -/
theorem validate_disorderly : disorderly.validate = .error disorders := by
  have hviolations : disorderly.violations = disorders := by decide +kernel
  rw [validate, hviolations]
  rfl

/-- A violation that is told is a fault, and one that is not told is none. -/
theorem validate_accepts_exactly_disorderly :
    disorderly.validate = .error disorders ∧ ¬ disorderly.Acceptable ∧
    disorderly.Faulty (.undefinedParser 0 "nginx") ∧
    ¬ disorderly.Faulty (.duplicateParser "json") := by
  have hv := validate_disorderly
  obtain ⟨haccepts, herror⟩ := validate_accepts_exactly disorderly
  obtain ⟨-, hfaulty, -⟩ := herror _ hv
  refine ⟨hv, fun h => ?_, (hfaulty _).1 (by decide), fun h => ?_⟩
  · obtain ⟨v, hvalid⟩ := haccepts.2 h
    rw [hv] at hvalid
    contradiction
  · exact absurd ((hfaulty _).2 h) (by decide)

end Pipeline

end LogOperator
