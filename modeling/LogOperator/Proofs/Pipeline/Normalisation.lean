import LogOperator.Proofs.Pipeline.Acceptance
import LogOperator.Proofs.Routing.Tags

/-!
# LogOperator.Proofs.Pipeline.Normalisation

Validation brings a specification into a normal form, in which it names its namespace and its log file.
The normal form is well-formed wherever the original was, and nothing is left to fill in:

* `Spec.fill_fill`, `Spec.violations_fill` — what is filled in stays and passes every check;
* `Pipeline.validate_fill` — the normal form is valid with any metadata;
* `Pipeline.validate_normalises` — validating the normal form gives the same valid pipeline again.
-/

namespace LogOperator

namespace Spec

variable {s : Spec} {target : String}

/-! ## What is filled in -/

/-- Only an empty log file is replaced. -/
theorem collectorLogfile_fill : (s.fill target).collectorLogfile
    = if s.collectorLogfile = "" then defaultLogfile else s.collectorLogfile := rfl

/-- The normal form names a log file. -/
theorem collectorLogfile_fill_ne : (s.fill target).collectorLogfile ≠ "" := by
  rw [collectorLogfile_fill]
  split
  · decide
  · assumption

/-- Nothing is left to fill in. -/
theorem fill_fill : (s.fill target).fill target = s.fill target := by
  have hlogfile : ((s.fill target).fill target).collectorLogfile = (s.fill target).collectorLogfile := by
    rw [collectorLogfile_fill, if_neg collectorLogfile_fill_ne]
  simp only [fill] at hlogfile ⊢
  rw [hlogfile]

/-- **The normal form passes every check** that the original passed. -/
theorem violations_fill (h : s.violations target = []) : (s.fill target).violations target = [] := by
  obtain ⟨htarget, hs⟩ := violations_eq_nil_iff.1 h
  exact violations_eq_nil_iff.2 ⟨htarget, hs.fill target⟩

/-- Components are put into a namespace that has a name. -/
theorem target_ne_of_violations (h : s.violations target = []) : target ≠ "" := by
  obtain ⟨hlabel, -⟩ := checkTarget_eq_nil_iff.1 (violations_eq_nil_iff.1 h).1
  intro hempty
  exact hlabel.ne_nil (by simp [hempty])

end Spec

namespace Pipeline

variable {p : Pipeline} {v : ValidPipeline}

/-! ## The normal form -/

/-- The metadata has no say in the namespace of a normal form. -/
theorem target_fill (h : p.violations = []) (m : Metadata) :
    target ⟨m, p.spec.fill p.target⟩ = p.target :=
  if_neg (Spec.target_ne_of_violations h)

/-- A normal form is valid with any metadata, which only decides the name and the owner. -/
theorem validate_fill (h : p.violations = []) (m : Metadata) :
    validate ⟨m, p.spec.fill p.target⟩ = .ok {
      name := name ⟨m, p.spec⟩
      ns := p.target
      owner := if m.ns = some p.target then ownerRef? ⟨m, p.spec⟩ else none
      spec := p.spec.fill p.target } := by
  have hviolations : violations ⟨m, p.spec.fill p.target⟩ = [] := by
    rw [violations, target_fill h]
    exact Spec.violations_fill h
  rw [validate_of_violations hviolations, validated, target_fill h, Spec.fill_fill]
  rfl

/-- **Validation is a normalisation.**  A pipeline with the specification that validation made of it is
valid, and the same valid pipeline comes of it.  In any other namespace, or in none, it is the same but
for the owner.  The specification differs from the original one in its namespace and its log file, if
these were left open, and in nothing else. -/
theorem validate_normalises (h : p.validate = .ok v) :
    { p with spec := v.spec }.validate = .ok v ∧
    (∀ ns, validate ⟨{ p.metadata with ns := ns }, v.spec⟩
      = .ok { v with owner := if ns = some v.ns then p.ownerRef? else none }) ∧
    v.spec = { p.spec with ns := v.ns, collectorLogfile := v.spec.collectorLogfile } ∧
    v.ns = (if p.spec.ns = "" then p.metadata.ns.getD "logging" else p.spec.ns) ∧
    v.spec.collectorLogfile = (if p.spec.collectorLogfile = "" then "/var/log/fluentbit.log"
      else p.spec.collectorLogfile) := by
  obtain ⟨hviolations, rfl⟩ := eq_validated_of_validate h
  have hnormal := validate_fill hviolations
  exact ⟨hnormal p.metadata, fun ns => hnormal { p.metadata with ns := ns }, rfl, rfl, rfl⟩

/-- The pipeline of two teams, once the cluster knows it. -/
def teamsKnown : Pipeline :=
  { teams with metadata := { teams.metadata with uid := some "9d5e4c3b" } }

theorem validate_teamsKnown : teamsKnown.validate = .ok teamsKnown.validated :=
  validate_of_violations (by decide +kernel)

/-- The pipeline leaves its namespace and its log file open, and owns its components.  In another
namespace it keeps to the one that was filled in, and owns nothing. -/
theorem validate_normalises_teamsKnown :
    teamsKnown.spec.ns = "" ∧ teamsKnown.spec.collectorLogfile = "" ∧
    teamsKnown.validate = .ok teamsKnown.validated ∧ teamsKnown.validated.owner.isSome = true ∧
    teamsKnown.validated.ns = "logging" ∧
    { teamsKnown with spec := teamsKnown.validated.spec }.validate = .ok teamsKnown.validated ∧
    validate ⟨{ teamsKnown.metadata with ns := some "elsewhere" }, teamsKnown.validated.spec⟩
      = .ok { teamsKnown.validated with owner := none } := by
  obtain ⟨hagain, helsewhere, -, hns, -⟩ := validate_normalises validate_teamsKnown
  exact ⟨rfl, rfl, validate_teamsKnown, rfl, hns, hagain, helsewhere (some "elsewhere")⟩

end Pipeline

end LogOperator
