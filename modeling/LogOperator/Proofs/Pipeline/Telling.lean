import LogOperator.Proofs.Pipeline.Faults
import LogOperator.Proofs.Text.Newlines
import Mathlib.Algebra.BigOperators.Group.List.Basic
import Mathlib.Algebra.Order.Group.Nat
import Mathlib.Algebra.Ring.Nat

/-!
# LogOperator.Proofs.Pipeline.Telling

What a rejected pipeline is told, line by line.  Messages are joined by newlines, so there is a line for
each violation unless a message has newlines of its own.  Quoted values have none, but some messages show
a name as it is (`Violation.unquoted`):

* `Violation.newlines_message` — the newlines of a message are those of the names that it shows as they
  are;
* `Pipeline.legible_iff` — the pipelines of which no such name with a newline is told;
* `Pipeline.told_by_line_iff` — exactly for these, each violation has one line.
-/

namespace LogOperator

open Text (OneLine splitLines newlines newlines_of_oneLine newlines_append_oneLine newlines_between
  newlines_around_quoted oneLine_ofList oneLine_repr)

/-! ## Messages -/

namespace Violation

variable {x : Violation} {vs : List Violation}

/-- The names that a message shows as they are. -/
def unquoted : Violation → List String
  | duplicateParser name | emptyParserPattern name | reservedParserName name
  | invalidParserPattern name | undefinedParser _ name => [name]
  | watchMissingParsers _ ns | watchMissingOutputs _ ns => [ns]
  | tagConflict tag shorter => [tag, shorter]
  | _ => []

theorem oneLine_rule (index : Nat) : OneLine (rule index) :=
  ((oneLine_ofList (by decide)).append (oneLine_repr index)).append (oneLine_ofList (by decide))

theorem oneLine_tokenRule : OneLine tokenRule :=
  oneLine_ofList (by decide)

/-- **The newlines of a message** are those of the names that it shows as they are. -/
theorem newlines_message (x : Violation) :
    newlines x.message = (x.unquoted.map newlines).sum := by
  cases x with
  | missingParsers | defaultNamespace | invalidCollectorLogfile | missingVersion
  | searchEngineHostMissing | searchEnginePortMissing =>
      exact newlines_of_oneLine (oneLine_ofList (by decide))
  | unnamedParser index =>
      exact newlines_of_oneLine (((oneLine_ofList (by decide)).append (oneLine_repr index)).append
        (oneLine_ofList (by decide)))
  | duplicateParser name | emptyParserPattern name | reservedParserName name
  | invalidParserPattern name =>
      exact newlines_between (oneLine_ofList (by decide)) (oneLine_ofList (by decide))
  | invalidParserName name =>
      exact newlines_around_quoted (oneLine_ofList (by decide)) oneLine_tokenRule name
  | invalidTargetNamespace ns =>
      exact newlines_around_quoted (oneLine_ofList (by decide)) (oneLine_ofList (by decide)) ns
  | watchMissingNamespace index =>
      exact newlines_of_oneLine ((oneLine_rule index).append (oneLine_ofList (by decide)))
  | watchMissingParsers index ns | watchMissingOutputs index ns =>
      exact newlines_between ((oneLine_rule index).append (oneLine_ofList (by decide)))
        (oneLine_ofList (by decide))
  | undefinedParser index name =>
      calc newlines (undefinedParser index name).message
        _ = newlines ("parser '" ++ name ++ "' referenced by " ++ rule index) :=
          newlines_append_oneLine (oneLine_ofList (by decide))
        _ = newlines ("parser '" ++ name ++ "' referenced by ") :=
          newlines_append_oneLine (oneLine_rule index)
        _ = newlines name :=
          newlines_between (oneLine_ofList (by decide)) (oneLine_ofList (by decide))
  | invalidWatchNamespace index value | invalidDeployment index value
  | invalidIndexPattern index value =>
      exact newlines_around_quoted ((oneLine_rule index).append (oneLine_ofList (by decide)))
        (oneLine_ofList (by decide)) value
  | invalidTag index tag =>
      exact newlines_around_quoted ((oneLine_rule index).append (oneLine_ofList (by decide)))
        oneLine_tokenRule tag
  | tagConflict tag shorter =>
      calc newlines (tagConflict tag shorter).message
        _ = newlines ("tag '" ++ shorter ++ "' is a prefix of tag '" ++ tag) :=
          newlines_append_oneLine (oneLine_ofList (by decide))
        _ = newlines ("tag '" ++ shorter ++ "' is a prefix of tag '") + newlines tag :=
          Text.newlines_append _ tag
        _ = newlines shorter + newlines tag := by
          rw [newlines_between (oneLine_ofList (by decide)) (oneLine_ofList (by decide))]
        _ = newlines tag + newlines shorter := Nat.add_comm _ _

/-- A message is one line exactly if every text that it shows as it is is one. -/
theorem oneLine_message_iff : OneLine x.message ↔ ∀ s ∈ x.unquoted, OneLine s := by
  rw [← Text.newlines_eq_zero_iff, newlines_message, List.sum_eq_zero_iff_forall_eq_nat,
    List.forall_mem_map]
  exact forall₂_congr fun s _ => Text.newlines_eq_zero_iff

/-- The lines of a rejection are those of its violations, one after the other. -/
theorem splitLines_messages (hne : vs ≠ []) :
    splitLines (messages vs) = vs.flatMap fun x => splitLines x.message := by
  rw [messages, Text.splitLines_joinWith (by simpa using hne), List.flatMap_map]

/-- Otherwise it has as many lines more as there are newlines in these texts. -/
theorem length_splitLines_message (x : Violation) :
    (splitLines x.message).length = (x.unquoted.map newlines).sum + 1 := by
  rw [Text.length_splitLines, newlines_message]

/-- A rejection has a line for each violation, and one more for each newline in a name that is shown as
it is. -/
theorem length_splitLines_messages (hne : vs ≠ []) : (splitLines (messages vs)).length
    = vs.length + ((vs.flatMap unquoted).map newlines).sum := by
  rw [splitLines_messages hne]
  clear hne
  induction vs with
  | nil => rfl
  | cons x vs ih =>
      rw [List.flatMap_cons, List.length_append, length_splitLines_message, ih, List.flatMap_cons,
        List.map_append, List.sum_append, List.length_cons]
      omega

/-- **Each violation has one line** exactly if no name that is shown as it is has a newline. -/
theorem splitLines_messages_eq_iff (hne : vs ≠ []) :
    splitLines (messages vs) = vs.map message ↔ ∀ x ∈ vs, ∀ s ∈ x.unquoted, OneLine s := by
  constructor
  · intro h
    -- no other line is left, so there is no other newline
    have hlength := length_splitLines_messages hne
    rw [h, List.length_map] at hlength
    have hsum : ((vs.flatMap unquoted).map newlines).sum = 0 := by omega
    rw [List.sum_eq_zero_iff_forall_eq_nat, List.forall_mem_map] at hsum
    exact fun x hx s hs => Text.newlines_eq_zero_iff.1 (hsum s (List.mem_flatMap.2 ⟨x, hx, hs⟩))
  · intro h
    rw [splitLines_messages hne, List.map_eq_flatMap]
    exact List.flatMap_congr fun x hx => Text.splitLines_of_oneLine (oneLine_message_iff.2 (h x hx))

end Violation

/-! ## Legible pipelines -/

/-- A name with a newline in it is wrong in nothing else, so that it is told in quotes only. -/
def LogParser.Legible (earlier : List String) (q : LogParser) : Prop :=
  OneLine q.name ∨
    q.name ∉ earlier ∧ q.pattern ≠ "" ∧ ∀ c ∈ q.pattern.toList, Text.isControl c = false

/-- The faults of a parser show single lines only. -/
theorem LogParser.legible_iff {index : Nat} {earlier : List String} {q : LogParser} :
    q.Legible earlier ↔ ∀ x, q.Faulty index earlier x → ∀ s ∈ x.unquoted, OneLine s := by
  constructor
  · intro hq x hx
    have hname (hwrong : ¬ (q.name ∉ earlier ∧ q.pattern ≠ "" ∧
        ∀ c ∈ q.pattern.toList, Text.isControl c = false)) : ∀ s ∈ [q.name], OneLine s :=
      List.forall_mem_singleton.2 (hq.resolve_right hwrong)
    cases hx with
    | unnamed | badName => exact fun s hs => absurd hs List.not_mem_nil
    | reserved h =>
        rw [Violation.unquoted, List.forall_mem_singleton, h]
        exact oneLine_ofList (by decide)
    | duplicate _ h => exact hname fun hright => hright.1 h
    | noPattern _ h => exact hname fun hright => hright.2.1 h
    | badPattern _ hc h => exact hname fun hright => by simp [hright.2.2 _ hc] at h
  · intro h
    by_cases hempty : q.name = ""
    · rw [LogParser.Legible, hempty]
      exact .inl (oneLine_ofList (by decide))
    · refine or_iff_not_imp_left.2 fun hbroken => ⟨fun hdup => ?_, fun hpattern => ?_, fun c hc => ?_⟩
      · exact hbroken (h _ (.duplicate hempty hdup) _ List.mem_cons_self)
      · exact hbroken (h _ (.noPattern hempty hpattern) _ List.mem_cons_self)
      · refine Bool.eq_false_iff.2 fun hcontrol => ?_
        exact hbroken (h _ (.badPattern hempty hc hcontrol) _ List.mem_cons_self)

/-- A namespace with a newline in it has parsers and outputs, and the parsers of such a name that the
rule refers to are defined. -/
structure WatchRule.Legible (defined : List String) (r : WatchRule) : Prop where
  ns : OneLine r.ns ∨ r.parsers ≠ [] ∧ r.outputs ≠ []
  parsers : ∀ name ∈ r.parsers, OneLine name ∨ name ∈ defined

/-- The faults of a rule show single lines only. -/
theorem WatchRule.legible_iff {index : Nat} {defined : List String} {r : WatchRule} :
    r.Legible defined ↔ ∀ x, r.Faulty defined index x → ∀ s ∈ x.unquoted, OneLine s := by
  constructor
  · intro hr x hx
    cases hx with
    | noNamespace | badNamespace | badTag | badDeployment | badIndexPattern =>
        exact fun s hs => absurd hs List.not_mem_nil
    | noParsers h => exact List.forall_mem_singleton.2 (hr.ns.resolve_right fun hns => hns.1 h)
    | noOutputs h => exact List.forall_mem_singleton.2 (hr.ns.resolve_right fun hns => hns.2 h)
    | unknownParser hname h =>
        exact List.forall_mem_singleton.2 ((hr.parsers _ hname).resolve_right h)
  · intro h
    refine ⟨or_iff_not_imp_left.2 fun hns => ⟨fun hnone => ?_, fun hnone => ?_⟩, fun name hname => ?_⟩
    · exact hns (h _ (.noParsers hnone) _ List.mem_cons_self)
    · exact hns (h _ (.noOutputs hnone) _ List.mem_cons_self)
    · exact or_iff_not_imp_right.2 fun hnot => h _ (.unknownParser hname hnot) _ List.mem_cons_self

namespace Pipeline

variable {p : Pipeline} {vs : List Violation}

/-- Names with a newline in them are told in quotes only. -/
structure Legible (p : Pipeline) : Prop where
  parser : ∀ (i : Nat) (q : LogParser), p.spec.parsers[i]? = some q →
    q.Legible (LogParser.names (p.spec.parsers.take i))
  rule : ∀ r ∈ p.spec.watch, r.Legible (LogParser.names p.spec.parsers)
  /-- Of two tags, the longer one has no newline in it, nor then the shorter one. -/
  tag : ∀ r ∈ p.spec.watch, ∀ r' ∈ p.spec.watch, r'.effectiveTag ≠ "" →
    r'.effectiveTag.toList <+: r.effectiveTag.toList → r'.effectiveTag ≠ r.effectiveTag →
      OneLine r.effectiveTag

/-- **What is told of a legible pipeline** shows no name that has a newline in it as it is, and of no
other one. -/
theorem legible_iff : p.Legible ↔ ∀ x, p.Faulty x → ∀ s ∈ x.unquoted, OneLine s := by
  constructor
  · intro hp x hx
    cases hx with
    | forbiddenTarget | badTarget | badLogfile | noParsers | noVersion | noHost | noPort =>
        exact fun s hs => absurd hs List.not_mem_nil
    | parser hq h => exact LogParser.legible_iff.1 (hp.parser _ _ hq) _ h
    | rule hr h => exact WatchRule.legible_iff.1 (hp.rule _ (List.mem_of_getElem? hr)) _ h
    | overlap hr hr' hne hstart h =>
        have htag := hp.tag _ hr _ hr' hne hstart h
        intro s hs
        rcases List.mem_pair.1 hs with rfl | rfl
        · exact htag
        · exact fun hmem => htag (hstart.subset hmem)
  · intro h
    refine ⟨fun i q hq => ?_, fun r hr => ?_, fun r hr r' hr' hne hstart hdiffer => ?_⟩
    · exact LogParser.legible_iff.2 fun x hx => h x (.parser hq hx)
    · obtain ⟨i, hi⟩ := List.getElem?_of_mem hr
      exact WatchRule.legible_iff.2 fun x hx => h x (.rule hi hx)
    · exact h _ (.overlap hr hr' hne hstart hdiffer) _ List.mem_cons_self

/-- A pipeline is rejected with its violations, of which there is one at least. -/
theorem eq_violations_of_validate (hv : p.validate = .error vs) : vs = p.violations ∧ vs ≠ [] := by
  unfold validate at hv
  split_ifs at hv with hnil
  cases hv
  exact ⟨rfl, hnil⟩

/-- **What a rejected pipeline is told, line by line**: the lines of its violations one after the other,
one for each and one more for each newline in a name that is not quoted.  So each violation has one line
exactly if the pipeline is legible. -/
theorem told_by_line_iff (hv : p.validate = .error vs) :
    splitLines (Violation.messages vs) = vs.flatMap (fun x => splitLines x.message) ∧
    (splitLines (Violation.messages vs)).length
      = vs.length + ((vs.flatMap Violation.unquoted).map newlines).sum ∧
    (splitLines (Violation.messages vs) = vs.map Violation.message ↔ p.Legible) := by
  obtain ⟨rfl, hne⟩ := eq_violations_of_validate hv
  refine ⟨Violation.splitLines_messages hne, Violation.length_splitLines_messages hne, ?_⟩
  rw [Violation.splitLines_messages_eq_iff hne, legible_iff]
  exact forall_congr' fun x => imp_congr_left mem_violations_iff

/-- A pipeline of two broken names, both told in quotes. -/
def brokenNames : Pipeline where
  metadata := .empty
  spec := { Spec.blank with
    version := "7.10.2"
    parsers := [⟨"json\n", "^.*$"⟩]
    watch := [⟨"check\nout", "", [], ["json\n"], [⟨.stdout, ""⟩]⟩]
    searchEngine := ⟨false, "search.example.com", some 9200, false⟩ }

/-- What is wrong with it. -/
def brokenNameViolations : List Violation :=
  [.invalidParserName "json\n", .invalidWatchNamespace 0 "check\nout"]

/-- Names with newlines are told by line where they are quoted. -/
theorem told_by_line_iff_brokenNames :
    brokenNames.validate = .error brokenNameViolations ∧ brokenNames.Legible ∧
    splitLines (Violation.messages brokenNameViolations)
      = brokenNameViolations.map Violation.message := by
  have hviolations : brokenNames.violations = brokenNameViolations := by decide +kernel
  have hv : brokenNames.validate = .error brokenNameViolations := by
    rw [validate, hviolations]
    rfl
  have hlegible : brokenNames.Legible := by
    rw [legible_iff]
    intro x hx
    rw [← mem_violations_iff, hviolations] at hx
    have hquoted : ∀ x ∈ brokenNameViolations, x.unquoted = [] := by decide
    rw [hquoted x hx]
    exact fun s hs => absurd hs List.not_mem_nil
  exact ⟨hv, hlegible, (told_by_line_iff hv).2.2.2 hlegible⟩

/-- A pipeline with a rule that refers to a parser by a broken name, which nothing defines. -/
def brokenReference : Pipeline where
  metadata := .empty
  spec := { Spec.blank with
    version := "7.10.2"
    parsers := [⟨"json", "^(?<log>.*)$"⟩]
    watch := [⟨"checkout", "", [], ["ng\ninx"], [⟨.stdout, ""⟩]⟩]
    searchEngine := ⟨false, "search.example.com", some 9200, false⟩ }

/-- **Its one violation is told on two lines.** -/
theorem told_on_two_lines_brokenReference :
    brokenReference.validate = .error [.undefinedParser 0 "ng\ninx"] ∧
    splitLines (Violation.messages [.undefinedParser 0 "ng\ninx"])
      = ["parser 'ng", "inx' referenced by watch[0] is not defined"] := by
  have hviolations : brokenReference.violations = [.undefinedParser 0 "ng\ninx"] := by decide +kernel
  refine ⟨?_, by decide +kernel⟩
  rw [validate, hviolations]
  rfl

end Pipeline

end LogOperator
