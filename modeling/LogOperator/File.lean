import LogOperator.Pipeline.Manifest
import LogOperator.Settings
import LogOperator.Toml.Value
import LogOperator.Yaml.Value

/-!
# LogOperator.File

Pipelines and settings in files.  Where files come from is a parameter, so loading is a function of
the files' bytes.
-/

namespace LogOperator

/-- Why a file has no text. -/
inductive FileFault where
  | missing
  | directory
  | notText
  | told (reason : String)
deriving DecidableEq, Inhabited

def FileFault.message : FileFault → String
  | missing => "No such file or directory (os error 2)"
  | directory => "Is a directory (os error 21)"
  | notText => "stream did not contain valid UTF-8"
  | told reason => reason

/-- Why nothing is loaded from a file. -/
inductive LoadError where
  | unreadable (file : String) (fault : FileFault)
  | notYaml
  | notToml
deriving DecidableEq, Inhabited

def LoadError.message : LoadError → String
  | unreadable file fault => "failed to read file '" ++ file ++ "': " ++ fault.message
  | notYaml => "YAML parse error: not a pipeline manifest"
  | notToml => "TOML parse error: not operator settings"

/-- The bytes of files by name. -/
abbrev Files := String → Except FileFault ByteArray

/-- The text of a file. -/
def Files.text (files : Files) (file : String) : Except LoadError String :=
  match files file with
  | .error fault => .error (.unreadable file fault)
  | .ok bytes =>
    match String.fromUTF8? bytes with
    | some s => .ok s
    | none => .error (.unreadable file .notText)

namespace Pipeline

/-- The pipeline of a YAML text. -/
def ofYaml? (s : String) : Option Pipeline :=
  (Yaml.Value.ofText? s).bind read?

def load (files : Files) (file : String) : Except LoadError Pipeline := do
  match ofYaml? (← files.text file) with
  | some p => return p
  | none => throw .notYaml

end Pipeline

namespace Settings

/-- The settings of a TOML text. -/
def ofToml? (s : String) : Option Settings :=
  (Toml.Value.ofText? s).bind read?

def load (files : Files) (file : String) : Except LoadError Settings := do
  match ofToml? (← files.text file) with
  | some s => return s
  | none => throw .notToml

end Settings

end LogOperator
