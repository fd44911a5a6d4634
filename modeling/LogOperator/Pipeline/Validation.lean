import LogOperator.Endpoint
import LogOperator.Pipeline.Manifest
import LogOperator.Pipeline.Violation
import LogOperator.Text.Class

/-!
# LogOperator.Pipeline.Validation

Validation of a pipeline: either every violation, in the order of the checks, or a valid pipeline with
its namespace resolved and its defaults filled in.

* `Pipeline.violations`: what is wrong with a pipeline.
* `Pipeline.validate`: the valid pipeline, when nothing is.
* `ValidPipeline.externalEndpoint?`: the endpoint of a search engine that is not provided here.
-/

namespace LogOperator

/-- A pipeline that passed validation. -/
structure ValidPipeline where
  name : String
  /-- The namespace that every component lives in. -/
  ns : String
  /-- The reference by which the pipeline owns its components; a pipeline in another namespace owns
  none. -/
  owner : Option OwnerRef
  /-- The specification with its defaults filled in. -/
  spec : Spec
deriving DecidableEq, Inhabited

namespace Spec

/-! ## Constants -/

/-- The collector's log file when the pipeline names none. -/
def defaultLogfile : String := "/var/log/fluentbit.log"

/-- The target namespace when neither the pipeline nor its metadata names one. -/
def fallbackNamespace : String := "logging"

/-- The parser that the collector applies to every file. -/
def runtimeParser : String := "json_parser"

/-- The namespace that components may not be put into. -/
def forbiddenNamespace : String := "default"

/-! ## Checks -/

/-- The violation alone, when a condition holds. -/
def report (condition : Bool) (v : Violation) : List Violation :=
  if condition then [v] else []

/-- The items that are met for the first time, in order. -/
def distinct {α : Type} [DecidableEq α] (l : List α) : List α :=
  l.eraseDups

/-- A target namespace is a DNS label other than the forbidden one. -/
def checkTarget (ns : String) : List Violation :=
  if ns = forbiddenNamespace then [.defaultNamespace]
  else report (!Text.isDnsLabel ns) (.invalidTargetNamespace ns)

/-- A parser has a name of its own that is a token and not reserved, and a pattern of one line.  Only
a missing name keeps the rest from being checked. -/
def checkParser (index : Nat) (earlier : List String) (p : LogParser) : List Violation :=
  if p.name = "" then [.unnamedParser index]
  else
    (if p.name = runtimeParser then [.reservedParserName p.name]
     else report (!Text.isToken p.name) (.invalidParserName p.name))
    ++ report (earlier.contains p.name) (.duplicateParser p.name)
    ++ (if p.pattern = "" then [.emptyParserPattern p.name]
        else report (Text.hasControl p.pattern) (.invalidParserPattern p.name))

/-- The checks of parsers from a position on, after parsers of the given names. -/
def checkParsersFrom (index : Nat) (earlier : List String) : List LogParser → List Violation
  | [] => []
  | p :: ps =>
    checkParser index earlier p ++ checkParsersFrom (index + 1) (p.name :: earlier) ps

/-- There is a parser, and each is well-formed. -/
def checkParsers (s : Spec) : List Violation :=
  if s.parsers.isEmpty then [.missingParsers] else checkParsersFrom 0 [] s.parsers

/-- A rule names a namespace, a tag and deployments that are well-formed, at least one parser, all of
them defined, and at least one output. -/
def checkRule (defined : List String) (index : Nat) (r : WatchRule) : List Violation :=
  (if r.ns = "" then [.watchMissingNamespace index]
   else report (!Text.isDnsLabel r.ns) (.invalidWatchNamespace index r.ns))
  ++ report (r.tag != "" && !Text.isToken r.tag) (.invalidTag index r.tag)
  ++ (r.deployments.filter fun d => !Text.isDnsSubdomain d).map (.invalidDeployment index)
  ++ report r.parsers.isEmpty (.watchMissingParsers index r.ns)
  ++ report r.outputs.isEmpty (.watchMissingOutputs index r.ns)
  ++ ((distinct r.parsers).filter fun p => !defined.contains p).map (.undefinedParser index)
  ++ (r.outputs.filter fun o => Text.hasBlankOrControl o.indexPattern).map
      fun o => .invalidIndexPattern index o.indexPattern

/-- Every rule is well-formed. -/
def checkWatch (s : Spec) : List Violation :=
  (s.watch.zipIdx.map fun r => checkRule (s.parsers.map (·.name)) r.2 r.1).flatten

/-- The tags that records are routed under, in order of first appearance. -/
def tags (s : Spec) : List String :=
  distinct (s.watch.map (·.effectiveTag))

/-- One text starts with another one that is not the same. -/
def continues (longer shorter : String) : Bool :=
  shorter != longer && shorter.toList.isPrefixOf longer.toList

/-- No tag starts with another one, because a route takes every record whose tag starts with its
own. -/
def checkTags (s : Spec) : List Violation :=
  let named := s.tags.filter (· != "")
  named.flatMap fun tag => (named.filter fun t => continues tag t).map (.tagConflict tag)

/-- A search engine that is not provided has a host and a port. -/
def checkSearchEngine (e : SearchEngine) : List Violation :=
  if e.required then []
  else report (Text.isAllBlank e.host) .searchEngineHostMissing
    ++ report e.port.isNone .searchEnginePortMissing

/-- What is wrong with a specification that is put into a namespace. -/
def violations (s : Spec) (target : String) : List Violation :=
  checkTarget target
  ++ report (Text.hasControl s.collectorLogfile) .invalidCollectorLogfile
  ++ checkParsers s
  ++ report (Text.isAllBlank s.version) .missingVersion
  ++ checkWatch s
  ++ checkTags s
  ++ checkSearchEngine s.searchEngine

/-- The specification with its namespace resolved and its log file filled in. -/
def fill (s : Spec) (target : String) : Spec :=
  { s with
    ns := target
    collectorLogfile := if s.collectorLogfile = "" then defaultLogfile else s.collectorLogfile }

end Spec

namespace Pipeline

/-- The namespace that the components are put into: the one of the specification, else the one of the
pipeline itself, else the fallback. -/
def target (p : Pipeline) : String :=
  if p.spec.ns = "" then p.metadata.ns.getD Spec.fallbackNamespace else p.spec.ns

/-- What is wrong with a pipeline. -/
def violations (p : Pipeline) : List Violation :=
  p.spec.violations p.target

/-- The valid pipeline of one without violations.  Owner references do not cross namespaces, so it is
owned only in its own. -/
def validated (p : Pipeline) : ValidPipeline where
  name := p.name
  ns := p.target
  owner := if p.metadata.ns = some p.target then p.ownerRef? else none
  spec := p.spec.fill p.target

/-- The valid pipeline, or every violation. -/
def validate (p : Pipeline) : Except (List Violation) ValidPipeline :=
  if p.violations = [] then .ok p.validated else .error p.violations

end Pipeline

namespace ValidPipeline

def managesSearchEngine (v : ValidPipeline) : Bool :=
  v.spec.searchEngine.required

/-- The endpoint of an external search engine.  One that is provided is found in the cluster. -/
def externalEndpoint? (v : ValidPipeline) : Option Endpoint :=
  let e := v.spec.searchEngine
  if e.required then none
  else e.port.map fun port => ⟨if e.https then .https else .http, e.host, port⟩

end ValidPipeline

end LogOperator
