import FunctionForge.Path

/-!
# Disks

A disk is what the operations ask of a file system. Every request may fail, and a request that fails
changes nothing that is not said here. The monad tells what a disk is made of: a tree in memory, or
the machine's.
-/

namespace FunctionForge

/-- Why a request to a disk failed. -/
inductive DiskError where
  | notFound
  | alreadyExists
  | notDirectory
  | isDirectory
  | nameTooLong
  | invalidText
  | zeroInName
  | other (text : String)
  deriving DecidableEq, Repr

def DiskError.text : DiskError → String
  | notFound => "No such file or directory (os error 2)"
  | alreadyExists => "File exists (os error 17)"
  | notDirectory => "Not a directory (os error 20)"
  | isDirectory => "Is a directory (os error 21)"
  | nameTooLong => "File name too long (os error 36)"
  | invalidText => "stream did not contain valid UTF-8"
  | zeroInName => "file name contained an unexpected NUL byte"
  | other text => text

/-- The requests to a disk. -/
structure Disk (m : Type → Type) where
  /-- The text of a file. -/
  read : Path → m (Except DiskError String)
  /-- Whether a path leads to a directory. -/
  isDirectory : Path → m Bool
  /-- Makes a directory in one that exists. -/
  makeDirectory : Path → m (Except DiskError Unit)
  /-- Makes a file, or empties the one that is there. -/
  create : Path → m (Except DiskError Unit)
  /-- Adds a text to a file. -/
  append : Path → String → m (Except DiskError Unit)
  /-- Removes a file. -/
  remove : Path → m (Except DiskError Unit)

namespace Disk

variable {m : Type → Type} [Monad m]

/-- Takes the failure of making a directory back if the directory is there. -/
def settle (disk : Disk m) (path : Path) : Except DiskError Unit → m (Except DiskError Unit)
  | .error .alreadyExists => do
    return if ← disk.isDirectory path then .ok () else .error .alreadyExists
  | result => pure result

/-- Makes the first directory of a list, after those that follow it if they are missing. -/
def makeFirst (disk : Disk m) : List Path → m (Except DiskError Unit)
  | [] => pure (.ok ())
  | path :: above => do
    match ← disk.makeDirectory path with
    | .error .notFound =>
      match ← disk.makeFirst above with
      | .error e => pure (.error e)
      | .ok () => disk.settle path (← disk.makeDirectory path)
    | result => disk.settle path result

/-- Makes a directory and those above it, as far as they are missing. -/
def makeDirectories (disk : Disk m) (path : Path) : m (Except DiskError Unit) :=
  disk.makeFirst path.named

end Disk

end FunctionForge
