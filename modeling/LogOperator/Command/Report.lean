import LogOperator.Config.Dialect
import LogOperator.File
import LogOperator.Pipeline.Definition
import LogOperator.Yaml.Writer

/-!
# LogOperator.Command.Report

The commands that need no cluster: what they print about the manifest in a file.
-/

namespace LogOperator.Command

/-- Why there is nothing to report. -/
inductive ReportError where
  /-- The manifest could not be loaded. -/
  | notLoaded (file : String) (cause : LoadError)
  /-- The pipeline is ill-formed. -/
  | invalid (file : String) (violations : List Violation)
deriving DecidableEq

def ReportError.message : ReportError → String
  | notLoaded file _ => "Failed to load pipeline manifest " ++ file
  | invalid file vs => file ++ " is invalid:\n" ++ Violation.messages vs

/-- The valid pipeline in a file. -/
def loadValid (files : Files) (file : String) : Except ReportError ValidPipeline := do
  let p ← (Pipeline.load files file).mapError (.notLoaded file)
  p.validate.mapError (.invalid file)

/-- How the search engine is found. -/
def searchEngineSummary (v : ValidPipeline) : String :=
  if v.managesSearchEngine then "self-managed"
  else (v.externalEndpoint?.map Endpoint.url).getD "external"

/-- What the manifest in a file sets up. -/
def summary (files : Files) (file : String) : Except ReportError String := do
  let v ← loadValid files file
  return file ++ " is valid: " ++ Nat.repr v.spec.watch.length ++ " watch rule(s), search engine "
    ++ searchEngineSummary v ++ ", dashboard "
    ++ (if v.spec.dashboard then "enabled" else "disabled")

/-- A text under the name of its file. -/
def labelled (t : RoutingTable) (d : Dialect) : String :=
  "# " ++ d.file ++ "\n" ++ t.compile d

/-- The configuration that the manifest in a file compiles to, in one dialect or in all of them. -/
def configuration (files : Files) (file : String) (dialect : Option Dialect) :
    Except ReportError String := do
  let t := RoutingTable.ofValid (← loadValid files file)
  return match dialect with
    | some d => t.compile d
    | none => Text.joinWith "\n" (Dialect.all.map (labelled t))

/-- The definition of the kind of pipelines. -/
def definitionText : String :=
  Yaml.render Pipeline.definition

end LogOperator.Command
