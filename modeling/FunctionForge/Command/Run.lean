import FunctionForge.Command.Reading
import FunctionForge.Manifest.File
import FunctionForge.Report.Basic

/-!
# Running command lines

A command line is read, done on a disk, and answered with texts and an exit code: zero if all is
well, one if the manifest or the pass has errors, two if the command line was not understood.
-/

namespace FunctionForge.Command

open Report (Printed)

/-- What running a command line gives. -/
structure Answer where
  exit : Nat
  printed : Printed
  deriving DecidableEq, Repr

/-- The name and the version of the program. -/
def versionText : String := "funcgen 0.1.0\n"

def usageText : String :=
  "Usage: funcgen [-v]... [-q] <generate|check|completions|help> [options]\n"

namespace Stop

def describe : Stop → String
  | help | version => ""
  | missingEverything | missingSubcommand => "a subcommand is required"
  | invalidSubcommand => "unrecognized subcommand"
  | unknownArgument => "unexpected argument"
  | tooManyValues => "a flag takes no value"
  | invalidValue => "a value is missing or not allowed"
  | valueValidation => "a value is not key=value"
  | argumentConflict => "arguments cannot be used together"
  | missingRequiredArgument => "a required argument is missing"

/-- The answer to a command line that asks for nothing that can be done. -/
def answer (stop : Stop) : Answer :=
  ⟨stop.exitCode,
    match stop with
    | help => ⟨usageText, ""⟩
    | version => ⟨versionText, ""⟩
    | _ => ⟨"", "error: " ++ stop.describe ++ "\n\n" ++ usageText⟩⟩

end Stop

def refusal (e : ManifestError) : Answer :=
  ⟨1, "", "error: " ++ e.message ++ "\n" ++ (e.help?.elim "" fun help => "help: " ++ help ++ "\n")⟩

def exitCode (hasErrors : Bool) : Nat := if hasErrors then 1 else 0

def checkAnswer (quiet : Bool) (format : Format) (check : Check) : Answer :=
  ⟨exitCode (!check.isValid),
    match format with
    | .text => Report.print quiet check.lines
    | .json => ⟨check.json.text 0 ++ "\n", ""⟩⟩

def generateAnswer (quiet : Bool) (generation : Generation) : Answer :=
  ⟨exitCode generation.hasErrors, Report.print quiet generation.lines⟩

variable {m : Type → Type} [Monad m]

/-- Does what a command line asks for. Completions are printed elsewhere. -/
def Line.run (disk : Disk m) (line : Line) : m Answer := do
  match line.task with
  | .completions _ => return ⟨0, "", ""⟩
  | .check config args format =>
    match ← ManifestFile.load disk config with
    | .error e => return refusal e
    | .ok file => return checkAnswer line.quiet format (file.check args)
  | .generate config output args dryRun =>
    match ← ManifestFile.load disk config with
    | .error e => return refusal e
    | .ok file =>
      if dryRun then return generateAnswer line.quiet (file.preview args)
      else return generateAnswer line.quiet (← file.generate disk output args)

/-- Runs a command line. -/
def run (disk : Disk m) (arguments : List String) : m Answer :=
  match read arguments with
  | .error stop => pure stop.answer
  | .ok line => line.run disk

end FunctionForge.Command
