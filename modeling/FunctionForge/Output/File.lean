import FunctionForge.Disk.Basic
import FunctionForge.Output.Sink

/-!
# A sink on a disk

Files are written below a root directory. Texts wait in a buffer until it is full or the file is
closed, so a write may fail for texts that were taken before. A file counts as generated once it is
closed.
-/

namespace FunctionForge

/-- The generated files, and the file that is open with the text that waits to be written. -/
structure FileOutput where
  generated : List Path
  current : Option (Path × String)
  deriving DecidableEq, Repr

namespace FileOutput

def empty : FileOutput := ⟨[], none⟩

instance : Inhabited FileOutput := ⟨empty⟩

def capacity : Nat := 8192

variable {m : Type → Type} [Monad m]

def failure (path : Path) : Except DiskError Unit → Except WriteError Unit
  | .ok () => .ok ()
  | .error e => .error ⟨path, e.text⟩

def makeParent (disk : Disk m) (path : Path) : m (Except WriteError Unit) := do
  match path.parent? with
  | none => pure (.ok ())
  | some parent => return failure parent (← disk.makeDirectories parent)

def openFile (disk : Disk m) (root : Path) (output : FileOutput) (location : Location) :
    m (Except WriteError Unit × FileOutput) := do
  let path := root.join location.relativePath
  match ← makeParent disk path with
  | .error e => pure (.error e, output)
  | .ok () =>
    match failure path (← disk.create path) with
    | .error e => pure (.error e, output)
    | .ok () => pure (.ok (), { output with current := some (path, "") })

/-- Writes what waits. If that fails it goes on waiting. -/
def flush (disk : Disk m) (path : Path) (waiting : String) :
    m (Except WriteError Unit × String) := do
  if waiting = "" then pure (.ok (), "")
  else match failure path (← disk.append path waiting) with
    | .error e => pure (.error e, waiting)
    | .ok () => pure (.ok (), "")

/-- Takes a text while others wait: lets it wait too if there is room, else writes what waits first.
A text that is as long as the buffer is written at once. -/
def take (disk : Disk m) (path : Path) (waiting text : String) :
    m (Except WriteError Unit × String) := do
  if Text.size text < capacity - Text.size waiting then pure (.ok (), waiting ++ text)
  else
    let (result, waiting) ←
      if Text.size text > capacity - Text.size waiting then flush disk path waiting
      else pure (.ok (), waiting)
    match result with
    | .error e => pure (.error e, waiting)
    | .ok () =>
      if Text.size text ≥ capacity then pure (failure path (← disk.append path text), waiting)
      else pure (.ok (), waiting ++ text)

def write (disk : Disk m) (output : FileOutput) (text : String) :
    m (Except WriteError Unit × FileOutput) := do
  match output.current with
  | none => pure (.ok (), output)
  | some (path, waiting) =>
    let (result, waiting) ← take disk path waiting text
    pure (result, { output with current := some (path, waiting) })

/-- Gives up the open file. What waits is still written if possible. -/
def abandon (disk : Disk m) (output : FileOutput) : m FileOutput := do
  match output.current with
  | none => pure output
  | some (path, waiting) =>
    let _ ← flush disk path waiting
    pure { output with current := none }

/-- Closes the open file, which then counts as generated. If what waits cannot be written the file
is given up. -/
def close (disk : Disk m) (output : FileOutput) : m (Except WriteError Unit × FileOutput) := do
  match output.current with
  | none => pure (.ok (), output)
  | some (path, waiting) =>
    match ← flush disk path waiting with
    | (.ok (), _) => pure (.ok (), ⟨output.generated ++ [path], none⟩)
    | (.error e, _) => return (.error e, ← output.abandon disk)

/-- The sink that writes below a root on a disk. -/
def sink (disk : Disk m) (root : Path) : Sink (StateT FileOutput m) where
  openFile location output := openFile disk root output location
  write text output := write disk output text
  close output := close disk output
  abandon output := do return ((), ← abandon disk output)

end FileOutput

end FunctionForge
