import LogOperator.Command.Arguments
import LogOperator.Command.Report

/-!
# LogOperator.Main

The program: reads the arguments, carries the command out, and prints what it gives.  No connection to
a cluster is built in, so operating a pipeline ends once the settings are loaded.
-/

namespace LogOperator.Main

/-- How the program is called. -/
def usage : String :=
  Text.unlines
    ["Usage: logpipe <COMMAND>",
     "",
     "Commands:",
     "  run       Reconcile a LogPipeline resource until stopped",
     "  validate  Validate a LogPipeline manifest",
     "  render    Print the configuration compiled from a LogPipeline manifest",
     "  crd       Print the LogPipeline CustomResourceDefinition",
     "  help      Print this message or the help of the given subcommand(s)",
     "",
     "Options:",
     "  -h, --help     Print help",
     "  -V, --version  Print version"]

def version : String := "logpipe 0.1.0"

/-- The wording of arguments that ask for no command. -/
def describe : ArgumentError → String
  | .help | .version | .nothing => usage
  | .unknownCommand => "error: unrecognized subcommand"
  | .unknownArgument => "error: unexpected argument found"
  | .badValue => "error: invalid value for an argument"
  | .needlessValue => "error: unexpected value for an argument"
  | .repeated => "error: the argument cannot be used multiple times"
  | .fileMissing => "error: the required file was not provided"

/-- The bytes of a file, or why there are none. -/
def readFile (name : String) : IO (Except FileFault ByteArray) := do
  try
    return .ok (← IO.FS.readBinFile name)
  catch
    | .noFileOrDirectory .. => return .error .missing
    | .inappropriateType .. => return .error .directory
    | e => return .error (.told (toString e))

/-- The files of which one has been read. -/
def filesOf (name : String) (content : Except FileFault ByteArray) : Files :=
  fun other => if other = name then content else .error .missing

/-- The failure of a command, with what caused it. -/
def fail (message : String) (cause : Option String) : IO UInt32 := do
  IO.eprintln ("Error: " ++ message)
  if let some cause := cause then
    IO.eprintln ("\nCaused by:\n    " ++ cause)
  return 1

def report (result : Except Command.ReportError String) (print : String → IO Unit) : IO UInt32 := do
  match result with
  | .ok s =>
    print s
    return 0
  | .error e =>
    fail e.message (match e with
      | .notLoaded _ cause => some cause.message
      | .invalid .. => none)

/-- Carries a command out. -/
def carryOut : Command → IO UInt32
  | .run _ _ config => do
    if let some file := config then
      if let .error e := Settings.load (filesOf file (← readFile file)) file then
        return ← fail ("Failed to load operator settings from " ++ file) (some e.message)
    fail ("Failed to create cluster client. "
      ++ "Check your kubeconfig or in-cluster service account") none
  | .validate file => do
    report (Command.summary (filesOf file (← readFile file)) file) IO.println
  | .render file dialect => do
    report (Command.configuration (filesOf file (← readFile file)) file dialect) IO.print
  | .definition => do
    IO.print Command.definitionText
    return 0

/-- What the program does with its arguments. -/
def run (args : List String) : IO UInt32 := do
  match Command.ofArguments args with
  | .ok command => carryOut command
  | .error .help =>
    IO.print usage
    return 0
  | .error .version =>
    IO.println version
    return 0
  | .error e =>
    IO.eprintln (describe e)
    return 2

end LogOperator.Main

def main (args : List String) : IO UInt32 :=
  LogOperator.Main.run args
