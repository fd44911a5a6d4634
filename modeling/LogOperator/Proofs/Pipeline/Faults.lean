import LogOperator.Proofs.Pipeline.WellFormed
import LogOperator.Proofs.Text.Names

/-!
# LogOperator.Proofs.Pipeline.Faults

What the violations of a pipeline say about it, without the checks that find them
(`Pipeline.Faulty`):

* `Spec.mem_checkRule`, `Spec.mem_checkParsers`, `Spec.mem_checkTags` and others — what each check
  reports;
* `Pipeline.mem_violations_iff` — what is reported is what is wrong;
* `Pipeline.pairwise_violations` — violations come in the order of the checks.
-/

namespace LogOperator

open Text (Label Subdomain Token isBlank isControl)

/-! ## What violations say -/

/-- What a violation says about a rule at a position of the watch list. -/
inductive WatchRule.Faulty (defined : List String) (index : Nat) (r : WatchRule) :
    Violation → Prop where
  | noNamespace (h : r.ns = "") : Faulty defined index r (.watchMissingNamespace index)
  | badNamespace (hne : r.ns ≠ "") (h : ¬ Label r.ns.toList) :
      Faulty defined index r (.invalidWatchNamespace index r.ns)
  | badTag (hne : r.tag ≠ "") (h : ¬ Token r.tag) : Faulty defined index r (.invalidTag index r.tag)
  | badDeployment {d : String} (hd : d ∈ r.deployments) (h : ¬ Subdomain d) :
      Faulty defined index r (.invalidDeployment index d)
  | noParsers (h : r.parsers = []) : Faulty defined index r (.watchMissingParsers index r.ns)
  | noOutputs (h : r.outputs = []) : Faulty defined index r (.watchMissingOutputs index r.ns)
  | unknownParser {name : String} (hname : name ∈ r.parsers) (h : name ∉ defined) :
      Faulty defined index r (.undefinedParser index name)
  | badIndexPattern {o : Output} {c : Char} (ho : o ∈ r.outputs) (hc : c ∈ o.indexPattern.toList)
      (h : isBlank c = true ∨ isControl c = true) :
      Faulty defined index r (.invalidIndexPattern index o.indexPattern)

/-- What a violation says about a parser at a position, given the names of the earlier ones. -/
inductive LogParser.Faulty (index : Nat) (earlier : List String) (q : LogParser) :
    Violation → Prop where
  | unnamed (h : q.name = "") : Faulty index earlier q (.unnamedParser index)
  | reserved (h : q.name = "json_parser") : Faulty index earlier q (.reservedParserName q.name)
  | badName (hne : q.name ≠ "") (h : ¬ Token q.name) :
      Faulty index earlier q (.invalidParserName q.name)
  | duplicate (hne : q.name ≠ "") (h : q.name ∈ earlier) :
      Faulty index earlier q (.duplicateParser q.name)
  | noPattern (hne : q.name ≠ "") (h : q.pattern = "") :
      Faulty index earlier q (.emptyParserPattern q.name)
  | badPattern {c : Char} (hne : q.name ≠ "") (hc : c ∈ q.pattern.toList)
      (h : isControl c = true) : Faulty index earlier q (.invalidParserPattern q.name)

/-- Only which names were given before matters. -/
theorem LogParser.Faulty.congr {index : Nat} {earlier earlier' : List String} {q : LogParser}
    {x : Violation} (h : q.Faulty index earlier x)
    (hsame : ∀ name, name ∈ earlier ↔ name ∈ earlier') : q.Faulty index earlier' x := by
  cases h with
  | unnamed h => exact .unnamed h
  | reserved h => exact .reserved h
  | badName hne h => exact .badName hne h
  | duplicate hne h => exact .duplicate hne ((hsame _).1 h)
  | noPattern hne h => exact .noPattern hne h
  | badPattern hne hc h => exact .badPattern hne hc h

/-- What a violation says about a pipeline. -/
inductive Pipeline.Faulty (p : Pipeline) : Violation → Prop where
  | forbiddenTarget (h : p.target = "default") : Faulty p .defaultNamespace
  | badTarget (h : ¬ Label p.target.toList) : Faulty p (.invalidTargetNamespace p.target)
  | badLogfile {c : Char} (hc : c ∈ p.spec.collectorLogfile.toList) (h : isControl c = true) :
      Faulty p .invalidCollectorLogfile
  | noParsers (h : p.spec.parsers = []) : Faulty p .missingParsers
  | parser {i : Nat} {q : LogParser} {x : Violation} (hq : p.spec.parsers[i]? = some q)
      (h : q.Faulty i (LogParser.names (p.spec.parsers.take i)) x) : Faulty p x
  | noVersion (h : ∀ c ∈ p.spec.version.toList, isBlank c = true) : Faulty p .missingVersion
  | rule {i : Nat} {r : WatchRule} {x : Violation} (hr : p.spec.watch[i]? = some r)
      (h : r.Faulty (LogParser.names p.spec.parsers) i x) : Faulty p x
  | overlap {r r' : WatchRule} (hr : r ∈ p.spec.watch) (hr' : r' ∈ p.spec.watch)
      (hne : r'.effectiveTag ≠ "") (hstart : r'.effectiveTag.toList <+: r.effectiveTag.toList)
      (h : r'.effectiveTag ≠ r.effectiveTag) :
      Faulty p (.tagConflict r.effectiveTag r'.effectiveTag)
  | noHost (hm : p.spec.searchEngine.required = false)
      (h : ∀ c ∈ p.spec.searchEngine.host.toList, isBlank c = true) :
      Faulty p .searchEngineHostMissing
  | noPort (hm : p.spec.searchEngine.required = false) (h : p.spec.searchEngine.port = none) :
      Faulty p .searchEnginePortMissing

namespace Spec

variable {s : Spec} {q : LogParser} {qs : List LogParser} {r : WatchRule} {e : SearchEngine}
  {defined earlier : List String} {index : Nat} {x y : Violation} {target : String}

@[simp] theorem mem_report {condition : Bool} : x ∈ report condition y ↔ condition = true ∧ x = y := by
  cases condition <;> simp [report]

theorem mem_checkTarget : x ∈ checkTarget target ↔
    target = "default" ∧ x = .defaultNamespace ∨
      ¬ Label target.toList ∧ x = .invalidTargetNamespace target := by
  unfold checkTarget
  by_cases h : target = forbiddenNamespace
  · have hlabel : Label forbiddenNamespace.toList := Text.isDnsLabel_iff.1 (by decide)
    rw [if_pos h, h, List.mem_singleton]
    exact ⟨fun hx => .inl ⟨rfl, hx⟩, fun hx => hx.elim (·.2) fun hx => absurd hlabel hx.1⟩
  · have hne : target ≠ "default" := h
    simp [if_neg h, hne, Text.isDnsLabel_iff, ← Bool.not_eq_true]

/-- A name that is missing is told from one that is no label. -/
theorem mem_checkRule_ns : (x ∈ if r.ns = "" then [Violation.watchMissingNamespace index]
      else report (!Text.isDnsLabel r.ns) (.invalidWatchNamespace index r.ns)) ↔
    r.ns = "" ∧ x = .watchMissingNamespace index ∨
      r.ns ≠ "" ∧ ¬ Label r.ns.toList ∧ x = .invalidWatchNamespace index r.ns := by
  by_cases h : r.ns = ""
  · simp [h]
  · simp [h, ← Text.isDnsLabel_iff]

/-- **The faults of a rule** are what its checks report. -/
theorem mem_checkRule : x ∈ checkRule defined index r ↔ r.Faulty defined index x := by
  simp only [checkRule, List.mem_append, mem_checkRule_ns, mem_report, List.mem_map,
    List.mem_filter, mem_distinct, Bool.and_eq_true, bne_iff_ne, Bool.not_eq_true',
    ← Bool.not_eq_true, Text.isToken_iff, Text.isDnsSubdomain_iff, List.isEmpty_iff,
    List.contains_eq_mem, decide_eq_true_eq, Text.hasBlankOrControl, List.any_eq_true,
    Bool.or_eq_true]
  constructor
  · rintro (((((((⟨h, rfl⟩ | ⟨hne, h, rfl⟩) | ⟨⟨hne, h⟩, rfl⟩) | ⟨d, ⟨hd, h⟩, rfl⟩) |
      ⟨h, rfl⟩) | ⟨h, rfl⟩) | ⟨name, ⟨hname, h⟩, rfl⟩) | ⟨o, ⟨ho, c, hc, h⟩, rfl⟩)
    · exact .noNamespace h
    · exact .badNamespace hne h
    · exact .badTag hne h
    · exact .badDeployment hd h
    · exact .noParsers h
    · exact .noOutputs h
    · exact .unknownParser hname h
    · exact .badIndexPattern ho hc h
  · intro h
    cases h with
    | noNamespace h => simp [h]
    | badNamespace hne h => simp [hne, h]
    | badTag hne h => simp [hne, h]
    | badDeployment hd h => simp [hd, h]
    | noParsers h => simp [h]
    | noOutputs h => simp [h]
    | unknownParser hname h => simp [hname, h]
    | badIndexPattern ho hc h => simp; exact ⟨_, ⟨ho, _, hc, h⟩, rfl⟩

/-- The faults of all rules are told with their positions. -/
theorem mem_checkWatch : x ∈ s.checkWatch ↔
    ∃ i, ∃ r : WatchRule, s.watch[i]? = some r ∧ r.Faulty (LogParser.names s.parsers) i x := by
  simp only [checkWatch, List.mem_flatten, List.mem_map]
  constructor
  · rintro ⟨_, ⟨⟨r, i⟩, hr, rfl⟩, hx⟩
    exact ⟨i, r, List.mem_zipIdx_iff_getElem?.1 hr, mem_checkRule.1 hx⟩
  · rintro ⟨i, r, hr, hx⟩
    exact ⟨_, ⟨(r, i), List.mem_zipIdx_iff_getElem?.2 hr, rfl⟩, mem_checkRule.2 hx⟩

/-- The reserved name is a token, so that it is told for one reason only. -/
theorem mem_checkParser_name : (x ∈ if q.name = runtimeParser then
      [Violation.reservedParserName q.name]
      else report (!Text.isToken q.name) (.invalidParserName q.name)) ↔
    q.name = "json_parser" ∧ x = .reservedParserName q.name ∨
      ¬ Token q.name ∧ x = .invalidParserName q.name := by
  by_cases h : q.name = runtimeParser
  · have htoken : Token q.name := Text.isToken_iff.1 (by rw [h]; decide)
    rw [if_pos h, List.mem_singleton]
    exact ⟨fun hx => .inl ⟨h, hx⟩, fun hx => hx.elim (·.2) fun hx => absurd htoken hx.1⟩
  · have hne : q.name ≠ "json_parser" := h
    simp [h, hne, ← Text.isToken_iff]

theorem mem_checkParser_pattern : (x ∈ if q.pattern = "" then
      [Violation.emptyParserPattern q.name]
      else report (Text.hasControl q.pattern) (.invalidParserPattern q.name)) ↔
    q.pattern = "" ∧ x = .emptyParserPattern q.name ∨
      (∃ c ∈ q.pattern.toList, isControl c = true) ∧ x = .invalidParserPattern q.name := by
  by_cases h : q.pattern = ""
  · simp [h]
  · simp [h, Text.hasControl]

/-- **The faults of a parser** are what its checks report. -/
theorem mem_checkParser : x ∈ checkParser index earlier q ↔ q.Faulty index earlier x := by
  unfold checkParser
  by_cases hname : q.name = ""
  · rw [if_pos hname, List.mem_singleton]
    constructor
    · rintro rfl
      exact .unnamed hname
    · intro h
      cases h with
      | unnamed => rfl
      | reserved h =>
          rw [hname] at h
          contradiction
      | badName hne | duplicate hne | noPattern hne | badPattern hne => exact absurd hname hne
  · rw [if_neg hname, List.mem_append, List.mem_append, mem_checkParser_name,
      mem_checkParser_pattern, mem_report, List.contains_eq_mem, decide_eq_true_eq]
    constructor
    · rintro (((⟨h, rfl⟩ | ⟨h, rfl⟩) | ⟨h, rfl⟩) | (⟨h, rfl⟩ | ⟨⟨c, hc, h⟩, rfl⟩))
      · exact .reserved h
      · exact .badName hname h
      · exact .duplicate hname h
      · exact .noPattern hname h
      · exact .badPattern hname hc h
    · intro h
      cases h with
      | unnamed h => exact absurd h hname
      | reserved h => exact .inl (.inl (.inl ⟨h, rfl⟩))
      | badName _ h => exact .inl (.inl (.inr ⟨h, rfl⟩))
      | duplicate _ h => exact .inl (.inr ⟨h, rfl⟩)
      | noPattern _ h => exact .inr (.inl ⟨h, rfl⟩)
      | badPattern _ hc h => exact .inr (.inr ⟨⟨_, hc, h⟩, rfl⟩)

/-- Each parser is checked against the names of those before it. -/
theorem mem_checkParsersFrom : x ∈ checkParsersFrom index earlier qs ↔
    ∃ i, ∃ q : LogParser, qs[i]? = some q ∧
      q.Faulty (index + i) (LogParser.names (qs.take i) ++ earlier) x := by
  induction qs generalizing index earlier with
  | nil => simp [checkParsersFrom]
  | cons q qs ih =>
      have hsame (i : Nat) : ∀ name, name ∈ LogParser.names (qs.take i) ++ q.name :: earlier ↔
          name ∈ LogParser.names ((q :: qs).take (i + 1)) ++ earlier := by
        intro name
        simp only [List.take_succ_cons, LogParser.names_cons, List.mem_append, List.mem_cons]
        exact or_left_comm.trans or_assoc.symm
      rw [checkParsersFrom, List.mem_append, mem_checkParser, ih]
      constructor
      · rintro (h | ⟨i, q', hq', h⟩)
        · exact ⟨0, q, rfl, h⟩
        · refine ⟨i + 1, q', hq', ?_⟩
          rw [← Nat.add_assoc, Nat.add_right_comm]
          exact h.congr (hsame i)
      · rintro ⟨i, q', hq', h⟩
        cases i with
        | zero =>
            cases hq'
            exact .inl h
        | succ i =>
            refine .inr ⟨i, q', hq', ?_⟩
            rw [Nat.add_right_comm, Nat.add_assoc]
            exact h.congr fun name => (hsame i name).symm

/-- There have to be parsers, and each may have faults. -/
theorem mem_checkParsers : x ∈ s.checkParsers ↔ s.parsers = [] ∧ x = .missingParsers ∨
    ∃ i, ∃ q : LogParser, s.parsers[i]? = some q ∧
      q.Faulty i (LogParser.names (s.parsers.take i)) x := by
  unfold checkParsers
  by_cases h : s.parsers = []
  · simp [h]
  · simp [h, mem_checkParsersFrom]

theorem mem_tags {tag : String} :
    tag ∈ s.tags ↔ ∃ r ∈ s.watch, r.effectiveTag = tag := by
  rw [tags, mem_distinct, List.mem_map]

/-- Two tags conflict if one is a proper beginning of the other. -/
theorem mem_checkTags : x ∈ s.checkTags ↔ ∃ r ∈ s.watch, ∃ r' ∈ s.watch,
    r'.effectiveTag ≠ "" ∧ r'.effectiveTag.toList <+: r.effectiveTag.toList ∧
      r'.effectiveTag ≠ r.effectiveTag ∧ x = .tagConflict r.effectiveTag r'.effectiveTag := by
  simp only [checkTags, List.mem_flatMap, List.mem_map, List.mem_filter, mem_tags, bne_iff_ne,
    continues, Bool.and_eq_true, List.isPrefixOf_iff_prefix]
  constructor
  · rintro ⟨_, ⟨⟨r, hr, rfl⟩, -⟩, _, ⟨⟨⟨r', hr', rfl⟩, hne⟩, h, hstart⟩, rfl⟩
    exact ⟨r, hr, r', hr', hne, hstart, h, rfl⟩
  · rintro ⟨r, hr, r', hr', hne, hstart, h, rfl⟩
    refine ⟨_, ⟨⟨r, hr, rfl⟩, fun hempty => ?_⟩, _, ⟨⟨⟨r', hr', rfl⟩, hne⟩, h, hstart⟩, rfl⟩
    -- the empty text starts with itself only
    rw [hempty] at hstart
    exact hne (String.toList_injective (List.prefix_nil.1 hstart))

/-- A search engine that is not provided lacks a host or a port. -/
theorem mem_checkSearchEngine : x ∈ checkSearchEngine e ↔ e.required = false ∧
    ((∀ c ∈ e.host.toList, isBlank c = true) ∧ x = .searchEngineHostMissing ∨
      e.port = none ∧ x = .searchEnginePortMissing) := by
  unfold checkSearchEngine
  cases e.required <;> simp [Text.isAllBlank]

end Spec

namespace Pipeline

variable {p : Pipeline} {x : Violation}

/-- **What is reported is what is wrong**, all of it and nothing else. -/
theorem mem_violations_iff : x ∈ p.violations ↔ p.Faulty x := by
  simp only [violations, Spec.violations, List.mem_append, Spec.mem_checkTarget, Spec.mem_report,
    Spec.mem_checkParsers, Spec.mem_checkWatch, Spec.mem_checkTags, Spec.mem_checkSearchEngine,
    Text.hasControl, Text.isAllBlank, List.any_eq_true, List.all_eq_true, or_assoc]
  constructor
  · rintro (⟨h, rfl⟩ | ⟨h, rfl⟩ | ⟨⟨c, hc, h⟩, rfl⟩ | ⟨h, rfl⟩ | ⟨i, q, hq, h⟩ | ⟨h, rfl⟩ |
      ⟨i, r, hr, h⟩ | ⟨r, hr, r', hr', hne, hstart, h, rfl⟩ | ⟨hm, ⟨h, rfl⟩ | ⟨h, rfl⟩⟩)
    · exact .forbiddenTarget h
    · exact .badTarget h
    · exact .badLogfile hc h
    · exact .noParsers h
    · exact .parser hq h
    · exact .noVersion h
    · exact .rule hr h
    · exact .overlap hr hr' hne hstart h
    · exact .noHost hm h
    · exact .noPort hm h
  · intro h
    cases h with
    | forbiddenTarget h => exact .inl ⟨h, rfl⟩
    | badTarget h => exact .inr (.inl ⟨h, rfl⟩)
    | badLogfile hc h => exact .inr (.inr (.inl ⟨⟨_, hc, h⟩, rfl⟩))
    | noParsers h => exact .inr (.inr (.inr (.inl ⟨h, rfl⟩)))
    | parser hq h => exact .inr (.inr (.inr (.inr (.inl ⟨_, _, hq, h⟩))))
    | noVersion h => exact .inr (.inr (.inr (.inr (.inr (.inl ⟨h, rfl⟩)))))
    | rule hr h => exact .inr (.inr (.inr (.inr (.inr (.inr (.inl ⟨_, _, hr, h⟩))))))
    | overlap hr hr' hne hstart h =>
        exact .inr (.inr (.inr (.inr (.inr (.inr (.inr (.inl
          ⟨_, hr, _, hr', hne, hstart, h, rfl⟩)))))))
    | noHost hm h =>
        exact .inr (.inr (.inr (.inr (.inr (.inr (.inr (.inr ⟨hm, .inl ⟨h, rfl⟩⟩)))))))
    | noPort hm h =>
        exact .inr (.inr (.inr (.inr (.inr (.inr (.inr (.inr ⟨hm, .inr ⟨h, rfl⟩⟩)))))))

end Pipeline

/-! ## The order of violations -/

namespace Violation

/-- The check that a violation comes from: of the target, the log file, the parsers, the version, the
rules, the tags or the search engine. -/
def check : Violation → Nat
  | defaultNamespace | invalidTargetNamespace _ => 0
  | invalidCollectorLogfile => 1
  | missingParsers | unnamedParser _ | duplicateParser _ | emptyParserPattern _
  | reservedParserName _ | invalidParserName _ | invalidParserPattern _ => 2
  | missingVersion => 3
  | watchMissingNamespace _ | watchMissingParsers .. | watchMissingOutputs .. | undefinedParser ..
  | invalidWatchNamespace .. | invalidDeployment .. | invalidTag .. | invalidIndexPattern .. => 4
  | tagConflict .. => 5
  | searchEngineHostMissing | searchEnginePortMissing => 6

/-- The position of the rule that a violation is about; others are about none. -/
def position : Violation → Nat
  | watchMissingNamespace i | watchMissingParsers i _ | watchMissingOutputs i _
  | undefinedParser i _ | invalidWatchNamespace i _ | invalidDeployment i _ | invalidTag i _
  | invalidIndexPattern i _ => i
  | _ => 0

/-- Violations of an earlier check, or of an earlier rule, come first. -/
def Precedes (x y : Violation) : Prop :=
  x.check < y.check ∨ x.check = y.check ∧ x.position ≤ y.position

/-- Violations of the first checks, in order. -/
structure Ordered (n : Nat) (xs : List Violation) : Prop where
  pairwise : xs.Pairwise Precedes
  check_lt : ∀ x ∈ xs, x.check < n

variable {xs ys : List Violation} {n : Nat}

/-- Violations of one check that are about no rule come in any order. -/
theorem pairwise_of_check (h : ∀ x ∈ xs, x.check = n ∧ x.position = 0) : xs.Pairwise Precedes := by
  refine List.pairwise_iff_getElem.2 fun i j hi hj _ => .inr ?_
  obtain ⟨hcheck, hposition⟩ := h _ (List.getElem_mem hi)
  obtain ⟨hcheck', hposition'⟩ := h _ (List.getElem_mem hj)
  exact ⟨hcheck.trans hcheck'.symm, Nat.le_of_eq (hposition.trans hposition'.symm)⟩

/-- The violations of the next check are added. -/
theorem Ordered.append (h : Ordered n xs) (hy : ys.Pairwise Precedes)
    (hn : ∀ y ∈ ys, y.check = n) : Ordered (n + 1) (xs ++ ys) where
  pairwise := by
    refine List.pairwise_append.2 ⟨h.pairwise, hy, fun x hx y hy => .inl ?_⟩
    rw [hn y hy]
    exact h.check_lt x hx
  check_lt x hx := by
    rcases List.mem_append.1 hx with hx | hx
    · exact Nat.lt_succ_of_lt (h.check_lt x hx)
    · rw [hn x hx]
      exact Nat.lt_succ_self n

/-- The reports of a further check come after those of the earlier ones. -/
theorem Ordered.append_check (h : Ordered n xs) (hn : ∀ y ∈ ys, y.check = n ∧ y.position = 0) :
    Ordered (n + 1) (xs ++ ys) :=
  h.append (pairwise_of_check hn) fun y hy => (hn y hy).1

end Violation

/-- The rules are checked one after the other. -/
theorem Spec.pairwise_checkWatch (s : Spec) : s.checkWatch.Pairwise Violation.Precedes := by
  have hcheck : ∀ {i : Nat} {r : WatchRule} {x : Violation},
      x ∈ checkRule (s.parsers.map (·.name)) i r → x.check = 4 ∧ x.position = i := by
    intro i r x hx
    cases mem_checkRule.1 hx <;> exact ⟨rfl, rfl⟩
  rw [checkWatch, List.pairwise_flatten]
  constructor
  · intro l hl
    obtain ⟨⟨r, i⟩, -, rfl⟩ := List.mem_map.1 hl
    refine List.pairwise_iff_getElem.2 fun j k hj hk _ => .inr ?_
    obtain ⟨hx, hi⟩ := hcheck (List.getElem_mem hj)
    obtain ⟨hx', hi'⟩ := hcheck (List.getElem_mem hk)
    exact ⟨hx.trans hx'.symm, Nat.le_of_eq (hi.trans hi'.symm)⟩
  · rw [List.pairwise_map]
    refine List.pairwise_iff_getElem.2 fun j k hj hk hjk x hx y hy => .inr ?_
    obtain ⟨hx, hi⟩ := hcheck hx
    obtain ⟨hy, hi'⟩ := hcheck hy
    rw [List.getElem_zipIdx] at hi hi'
    exact ⟨hx.trans hy.symm, by omega⟩

/-- **Violations come in the order of the checks**, those of rules in the order of the rules. -/
theorem Pipeline.pairwise_violations (p : Pipeline) :
    p.violations.Pairwise Violation.Precedes := by
  have htarget : Violation.Ordered 1 (Spec.checkTarget p.target) := by
    have hcheck : ∀ x ∈ Spec.checkTarget p.target, x.check = 0 ∧ x.position = 0 := by
      intro x hx
      rcases Spec.mem_checkTarget.1 hx with ⟨-, rfl⟩ | ⟨-, rfl⟩ <;> exact ⟨rfl, rfl⟩
    exact ⟨Violation.pairwise_of_check hcheck, fun x hx => by rw [(hcheck x hx).1]; decide⟩
  have hreport : ∀ {condition : Bool} {x : Violation} {n : Nat}, x.check = n ∧ x.position = 0 →
      ∀ y ∈ Spec.report condition x, y.check = n ∧ y.position = 0 := by
    intro condition x n hx y hy
    rw [(Spec.mem_report.1 hy).2]
    exact hx
  refine ((((((htarget.append_check (hreport ⟨rfl, rfl⟩)).append_check ?parsers).append_check
    (hreport ⟨rfl, rfl⟩)).append p.spec.pairwise_checkWatch ?rules).append_check
    ?tags).append_check ?searchEngine).pairwise
  case parsers =>
    intro x hx
    rcases Spec.mem_checkParsers.1 hx with ⟨-, rfl⟩ | ⟨i, q, -, h⟩
    · exact ⟨rfl, rfl⟩
    · cases h <;> exact ⟨rfl, rfl⟩
  case rules =>
    intro x hx
    obtain ⟨i, r, -, h⟩ := Spec.mem_checkWatch.1 hx
    cases h <;> rfl
  case tags =>
    intro x hx
    obtain ⟨r, -, r', -, -, -, -, rfl⟩ := Spec.mem_checkTags.1 hx
    exact ⟨rfl, rfl⟩
  case searchEngine =>
    intro x hx
    obtain ⟨-, ⟨-, rfl⟩ | ⟨-, rfl⟩⟩ := Spec.mem_checkSearchEngine.1 hx <;> exact ⟨rfl, rfl⟩

end LogOperator
