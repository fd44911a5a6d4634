import LogOperator.Text.Lines
import LogOperator.Text.Quoted

/-!
# LogOperator.Pipeline.Violation

The ways in which a pipeline can be ill-formed, each with what it is about, and the one line in which
each is told.
-/

namespace LogOperator

/-- A reason to reject a pipeline.  Rules are known by their position in the watch list. -/
inductive Violation where
  | missingParsers
  | unnamedParser (index : Nat)
  | duplicateParser (name : String)
  | emptyParserPattern (name : String)
  | reservedParserName (name : String)
  | invalidParserName (name : String)
  | invalidParserPattern (name : String)
  | invalidTargetNamespace (ns : String)
  | defaultNamespace
  | invalidCollectorLogfile
  | missingVersion
  | watchMissingNamespace (index : Nat)
  | watchMissingParsers (index : Nat) (ns : String)
  | watchMissingOutputs (index : Nat) (ns : String)
  | undefinedParser (index : Nat) (name : String)
  | invalidWatchNamespace (index : Nat) (ns : String)
  | invalidDeployment (index : Nat) (name : String)
  | invalidTag (index : Nat) (tag : String)
  | invalidIndexPattern (index : Nat) (pattern : String)
  /-- One tag starts with another one. -/
  | tagConflict (tag shorter : String)
  | searchEngineHostMissing
  | searchEnginePortMissing
deriving DecidableEq, Inhabited

namespace Violation

open Text (quoted)

/-- A rule of the watch list, as messages show it. -/
def rule (index : Nat) : String :=
  "watch[" ++ Nat.repr index ++ "]"

/-- What a name may consist of. -/
def tokenRule : String :=
  " may only contain letters, digits, '_', '-' and '.'"

/-- The line that tells a violation. -/
def message : Violation → String
  | missingParsers => "parsers definition missing"
  | unnamedParser index => "parser #" ++ Nat.repr index ++ " has no name"
  | duplicateParser name => "parser '" ++ name ++ "' is defined more than once"
  | emptyParserPattern name => "parser '" ++ name ++ "' has an empty pattern"
  | reservedParserName name =>
    "parser name '" ++ name ++ "' is reserved for the built-in parser"
  | invalidParserName name => "parser name " ++ quoted name ++ tokenRule
  | invalidParserPattern name =>
    "parser '" ++ name ++ "' pattern contains control characters"
  | invalidTargetNamespace ns =>
    "target namespace " ++ quoted ns ++ " is not a valid namespace name"
  | defaultNamespace => "target namespace must not be 'default'"
  | invalidCollectorLogfile => "collector-logfile contains control characters"
  | missingVersion => "es-kib-version missing"
  | watchMissingNamespace index => rule index ++ " is missing a namespace"
  | watchMissingParsers index ns => rule index ++ " (" ++ ns ++ ") is missing parsers"
  | watchMissingOutputs index ns => rule index ++ " (" ++ ns ++ ") is missing outputs"
  | undefinedParser index name =>
    "parser '" ++ name ++ "' referenced by " ++ rule index ++ " is not defined"
  | invalidWatchNamespace index ns =>
    rule index ++ " namespace " ++ quoted ns ++ " is not a valid namespace name"
  | invalidDeployment index name =>
    rule index ++ " deployment " ++ quoted name ++ " is not a valid deployment name"
  | invalidTag index tag => rule index ++ " tag " ++ quoted tag ++ tokenRule
  | invalidIndexPattern index pattern =>
    rule index ++ " index-pattern " ++ quoted pattern
      ++ " contains whitespace or control characters"
  | tagConflict tag shorter =>
    "tag '" ++ shorter ++ "' is a prefix of tag '" ++ tag ++ "'; their routes would overlap"
  | searchEngineHostMissing =>
    "elasticsearch host missing (required when elasticsearch is not self-managed)"
  | searchEnginePortMissing =>
    "elasticsearch port missing (required when elasticsearch is not self-managed)"

/-- Violations as messages show them, a line each. -/
def messages (vs : List Violation) : String :=
  Text.joinWith "\n" (vs.map message)

end Violation

end LogOperator
