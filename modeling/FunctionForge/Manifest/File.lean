import FunctionForge.Manifest.Schema
import FunctionForge.Manifest.Unit
import FunctionForge.Output.File
import FunctionForge.Output.Memory
import FunctionForge.Report.Status

/-!
# Manifest files

A pass over an accepted manifest goes into memory for a check and for a look at the result, or onto a
disk. A pass that fails takes back the files that it generated. A pass that finds nothing to generate
removes the file that an earlier one may have left. A file that cannot be removed is only a warning,
and one that is not there is nothing at all.
-/

namespace FunctionForge

/-- A manifest that was accepted, with its path, its text and its unit. -/
structure ManifestFile where
  path : Path
  content : String
  manifest : Manifest
  unit : CompilationUnit

namespace ManifestFile

def ofText (path : Path) (content : String) : Except ManifestError ManifestFile := do
  let manifest ← (Manifest.read content).mapError ManifestError.malformed
  let unit ← manifest.toUnit content
  return ⟨path, content, manifest, unit⟩

end ManifestFile

/-! ### Passes -/

/-- The result of a pass over a manifest. A pass that ended early has no outcome but a fatal error.
-/
structure PassReport where
  outcome : Outcome
  diagnostics : DiagnosticLog
  fatal : Option String
  deriving DecidableEq, Repr

def PassReport.ofResult (result : Except GenerationError Outcome) (log : DiagnosticLog) :
    PassReport :=
  match result with
  | .ok outcome => ⟨outcome, log, none⟩
  | .error e => ⟨.nothing, log, some e.fullMessage⟩

namespace ManifestFile

/-- The options that a manifest states, with arguments taking precedence. -/
def optionArgs (file : ManifestFile) (args : List (String × String)) : OptionArgs :=
  file.manifest.options.override args

/-- Runs a pass over a manifest. Warnings about options come first. -/
def runPass {m : Type → Type} [Monad m] (sink : Sink m) (file : ManifestFile)
    (args : List (String × String)) : m PassReport := do
  let (options, warnings) := Options.ofArgs (file.optionArgs args)
  let (result, log) ← Pass.run sink file.unit options file.manifest.output.location
  return .ofResult result (warnings ++ log)

/-! ### Checks -/

/-- Runs a pass into memory, with the files that it leaves there. -/
def trial (file : ManifestFile) (args : List (String × String)) : PassReport × MemoryFiles :=
  (file.runPass MemoryFiles.sink args).run .empty

/-- Checks a manifest by a pass into memory. -/
def check (file : ManifestFile) (args : List (String × String)) : Check :=
  let pass := (file.trial args).1
  ⟨file.path, file.unit.declarations.length, (file.unit.annotatedWith functionAnnotation).length,
    pass.outcome, pass.diagnostics, pass.fatal⟩

end ManifestFile

/-! ### Generations -/

variable {m : Type → Type} [Monad m]

/-- Removes files, and tells which were there and what went wrong. -/
def Disk.removeFiles (disk : Disk m) : List Path → m (List Path × DiagnosticLog)
  | [] => pure ([], [])
  | path :: rest => do
    let result ← disk.remove path
    let (removed, log) ← disk.removeFiles rest
    return match result with
      | .ok () => (path :: removed, log)
      | .error .notFound => (removed, log)
      | .error e =>
        (removed, ⟨.warning, "failed to remove '" ++ path.text ++ "': " ++ e.text, none⟩ :: log)

namespace ManifestFile

/-- Reads a manifest from a disk. -/
def load (disk : Disk m) (path : Path) : m (Except ManifestError ManifestFile) := do
  match ← disk.read path with
  | .ok content => return ofText path content
  | .error e => return .error (.unreadable path e.text)

/-- Generates into memory for a look at the result. -/
def preview (file : ManifestFile) (args : List (String × String)) : Generation :=
  let (pass, memory) := file.trial args
  ⟨file.path, pass.diagnostics, pass.outcome, pass.fatal, .preview memory.files⟩

/-- The files to remove after a pass, from those that it generated. -/
def stale (file : ManifestFile) (directory : Path) (pass : PassReport) (generated : List Path) :
    List Path :=
  if pass.fatal.isSome then generated
  else if pass.outcome.file.isNone then [directory.join file.manifest.output.location.relativePath]
  else []

/-- Generates below a directory. -/
def generate (disk : Disk m) (file : ManifestFile) (directory : Path)
    (args : List (String × String)) : m Generation := do
  let (pass, output) ← (file.runPass (FileOutput.sink disk directory) args).run .empty
  let (removed, warnings) ← disk.removeFiles (file.stale directory pass output.generated)
  let files := if pass.fatal.isSome then [] else output.generated
  return ⟨file.path, pass.diagnostics ++ warnings, pass.outcome, pass.fatal,
    .written directory files removed⟩

end ManifestFile

end FunctionForge
