import FunctionForge.Output.Sink

/-!
# A sink in memory

Texts are collected in a buffer and stored when the file is closed, under its path. A path that was
stored before keeps its place.
-/

namespace FunctionForge

/-- The stored files in the order in which their paths were first closed, how many files were opened
and closed, and the file that is open. -/
structure MemoryFiles where
  files : List (Path × String)
  opened : Nat
  closed : Nat
  buffer : Option (Path × String)
  deriving DecidableEq, Repr

namespace MemoryFiles

def empty : MemoryFiles := ⟨[], 0, 0, none⟩

instance : Inhabited MemoryFiles := ⟨empty⟩

/-- Stores a text under a path, in its place if the path is there already. -/
def store (path : Path) (text : String) : List (Path × String) → List (Path × String)
  | [] => [(path, text)]
  | (p, t) :: rest => if p.sameAs path then (p, text) :: rest else (p, t) :: store path text rest

def file? (memory : MemoryFiles) (path : Path) : Option String :=
  (memory.files.find? fun entry => entry.1.sameAs path).map Prod.snd

def openFile (memory : MemoryFiles) (location : Location) : MemoryFiles :=
  { memory with opened := memory.opened + 1, buffer := some (location.relativePath, "") }

def write (memory : MemoryFiles) (text : String) : MemoryFiles :=
  { memory with buffer := memory.buffer.map fun (path, collected) => (path, collected ++ text) }

def close (memory : MemoryFiles) : MemoryFiles :=
  match memory.buffer with
  | none => memory
  | some (path, text) =>
    { memory with
      files := store path text memory.files
      closed := memory.closed + 1
      buffer := none }

private theorem find?_store (path other : Path) (text : String) (files : List (Path × String)) :
    ((store path text files).find? fun entry => entry.1.sameAs other).map Prod.snd =
      if path.sameAs other then some text
      else (files.find? fun entry => entry.1.sameAs other).map Prod.snd := by
  induction files with
  | nil => grind [store]
  | cons entry rest ih =>
    obtain ⟨p, t⟩ := entry
    rw [store]
    split
    · next hp =>
      have hsame : p.sameAs other = path.sameAs other := by
        rw [Bool.eq_iff_iff]
        exact ⟨fun h => Path.sameAs_trans (Path.sameAs_comm p path ▸ hp) h,
          fun h => Path.sameAs_trans hp h⟩
      simp only [List.find?_cons, hsame]
      split <;> simp_all
    · next hp =>
      simp only [List.find?_cons]
      split
      · next h =>
        rw [if_neg fun h' => hp (Path.sameAs_trans h (Path.sameAs_comm path other ▸ h'))]
      · exact ih

/-- Closing a file changes what is stored under its path only. -/
theorem file?_close {memory : MemoryFiles} {path : Path} {text : String}
    (h : memory.buffer = some (path, text)) (other : Path) :
    memory.close.file? other = if path.sameAs other then some text else memory.file? other := by
  rw [close, h]
  exact find?_store path other text memory.files

def abandon (memory : MemoryFiles) : MemoryFiles := { memory with buffer := none }

/-- The sink that stores into memory and never fails. -/
def sink : Sink (StateM MemoryFiles) where
  openFile location := do
    modify (·.openFile location)
    return .ok ()
  write text := do
    modify (·.write text)
    return .ok ()
  close := do
    modify close
    return .ok ()
  abandon := modify abandon

end MemoryFiles

end FunctionForge
