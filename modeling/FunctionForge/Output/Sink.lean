import FunctionForge.Path
import FunctionForge.Text.Basic

/-!
# Generated files and sinks

A generated file has a location below the output directory. A sink opens a file, takes texts for it,
and closes it. Each of these may fail. A file may also be abandoned without being closed.
-/

namespace FunctionForge

/-! ### Locations -/

/-- The package, the name without extension, and the extension of a generated file. -/
structure Location where
  package : String
  file : String
  extension : String
  deriving DecidableEq, Repr

namespace Location

def standardExtension : String := "kt"

def new (package file : String) : Location := ⟨package, file, standardExtension⟩

/-- The name of the generated file when none is given. -/
def defaultFile : String := "GeneratedFunctions"

/-- The file that is generated when no location is given. -/
def default : Location := new "" defaultFile

instance : Inhabited Location := ⟨default⟩

/-- The path below the output directory: a directory for each segment of the package, then the file.
-/
def relativePath (location : Location) : Path :=
  let directory := ((Text.segments location.package).filter (· ≠ "")).foldl
    (fun (path : Path) segment => path.join ⟨segment⟩) ⟨""⟩
  directory.join ⟨location.file ++ "." ++ location.extension⟩

end Location

/-! ### Sinks -/

/-- Why nothing could be written to a path. -/
structure WriteError where
  path : Path
  cause : String
  deriving DecidableEq, Repr

/-- What a sink does when a file is opened, written and closed. -/
structure Sink (m : Type → Type) where
  openFile : Location → m (Except WriteError Unit)
  write : String → m (Except WriteError Unit)
  close : m (Except WriteError Unit)
  abandon : m Unit

/-- An open file and the number of bytes that were written to it. -/
structure Writer where
  written : Nat
  deriving DecidableEq, Repr

namespace Writer

variable {m : Type → Type} [Monad m]

def begin (sink : Sink m) (location : Location) : m (Except WriteError Writer) := do
  match ← sink.openFile location with
  | .ok () => pure (.ok ⟨0⟩)
  | .error e => pure (.error e)

/-- Writes a text, and counts it if that succeeds. -/
def write (sink : Sink m) (writer : Writer) (text : String) :
    m (Except WriteError Unit × Writer) := do
  match ← sink.write text with
  | .ok () => pure (.ok (), ⟨writer.written + Text.size text⟩)
  | .error e => pure (.error e, writer)

/-- Closes the file and tells how many bytes were written. -/
def close (sink : Sink m) (writer : Writer) : m (Except WriteError Nat) := do
  match ← sink.close with
  | .ok () => pure (.ok writer.written)
  | .error e => pure (.error e)

end Writer

/-- What happened to a sink. -/
inductive SinkEvent where
  | opened (path : Path)
  | written (text : String)
  | closed
  deriving DecidableEq, Repr

namespace Sink

variable {m : Type → Type} [Monad m]

/-- A sink that also records what is asked of it, in order and before it is tried. -/
def recorded (sink : Sink m) : Sink (StateT (List SinkEvent) m) where
  openFile location := do
    modify (· ++ [.opened location.relativePath])
    StateT.lift (sink.openFile location)
  write text := do
    modify (· ++ [.written text])
    StateT.lift (sink.write text)
  close := do
    modify (· ++ [.closed])
    StateT.lift sink.close
  abandon := StateT.lift sink.abandon

end Sink

/-- Which requests of a sink fail. Writes are counted from one in each opened file, and zero fails
none. -/
structure FaultPlan where
  openFails : Bool
  failingWrite : Nat
  closeFails : Bool
  deriving DecidableEq, Repr

/-- The file that is open at a sink with a fault plan, and the number of writes to it. -/
structure FaultState where
  path : Path
  writes : Nat
  deriving DecidableEq, Repr

namespace FaultPlan

def cause : String := "disk full"

/-- A sink that keeps nothing and fails as planned. -/
def sink (plan : FaultPlan) : Sink (StateM FaultState) where
  openFile location := do
    set (⟨location.relativePath, 0⟩ : FaultState)
    return if plan.openFails then .error ⟨location.relativePath, cause⟩ else .ok ()
  write _ := do
    let state ← get
    set { state with writes := state.writes + 1 }
    return if state.writes + 1 = plan.failingWrite then .error ⟨state.path, cause⟩ else .ok ()
  close := do
    let state ← get
    return if plan.closeFails then .error ⟨state.path, cause⟩ else .ok ()
  abandon := pure ()

end FaultPlan

end FunctionForge
