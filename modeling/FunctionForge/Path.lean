import FunctionForge.Text.Basic

/-!
# Paths

A path keeps its text, and two paths name the same place if their components agree: repeated and
trailing slashes and inner dots carry no meaning, while a leading dot does.
-/

namespace FunctionForge

/-- A path as it was written. -/
structure Path where
  text : String
  deriving DecidableEq, Repr

namespace Path

/-- A step of a path. -/
inductive Component where
  | root
  | current
  | parent
  | name (s : String)
  deriving DecidableEq, Repr

instance : Inhabited Path := ⟨⟨""⟩⟩

def pieces (path : Path) : List (List Char) := Text.splitAt '/' path.text.toList

def isAbsolute (path : Path) : Bool := path.text.toList.head? = some '/'

/-- The component of a piece that is not the first, none if the piece carries no meaning. -/
def innerComponent? : List Char → Option Component
  | [] => none
  | ['.'] => none
  | ['.', '.'] => some .parent
  | piece => some (.name (String.ofList piece))

def components (path : Path) : List Component :=
  match path.pieces with
  | [] => []
  | first :: rest =>
    (if path.isAbsolute then [.root]
      else if first = ['.'] then [.current]
      else (innerComponent? first).toList) ++ rest.filterMap innerComponent?

/-- Whether two paths have the same components. -/
def sameAs (left right : Path) : Bool := left.components = right.components

@[simp] theorem sameAs_refl (path : Path) : path.sameAs path := by simp [sameAs]

theorem sameAs_comm (left right : Path) : left.sameAs right = right.sameAs left := by
  simp [sameAs, eq_comm]

theorem sameAs_trans {first second third : Path} (h : first.sameAs second)
    (h' : second.sameAs third) : first.sameAs third := by
  simp only [sameAs, decide_eq_true_eq] at *
  exact h.trans h'

/-- Appends a path; an absolute path replaces what came before. -/
def join (base path : Path) : Path :=
  if path.isAbsolute then path
  else if base.text = "" || base.text.toList.getLast? = some '/' then ⟨base.text ++ path.text⟩
  else ⟨base.text ++ "/" ++ path.text⟩

/-- Drops the pieces at the front of a reversed path that carry no meaning. A single piece is the
first of the path, and there a dot counts. -/
def trimReversed : List (List Char) → List (List Char)
  | [] => []
  | [piece] => if piece = [] then [] else [piece]
  | piece :: rest => if (innerComponent? piece).isSome then piece :: rest else trimReversed rest

/-- The text of pieces with slashes between them. -/
def joinPieces : List (List Char) → List Char
  | [] => []
  | [piece] => piece
  | piece :: rest => piece ++ '/' :: joinPieces rest

/-- The path without its last component. The root and the empty path have none. -/
def parent? (path : Path) : Option Path :=
  match trimReversed path.pieces.reverse with
  | [] => none
  | _ :: rest =>
    match trimReversed rest with
    | [] => some ⟨if path.isAbsolute then "/" else ""⟩
    | kept => some ⟨String.ofList (joinPieces kept.reverse)⟩

/-- The path and the paths above it, nearest first, as far as a number of steps reaches. -/
def upward : Nat → Path → List Path
  | 0, path => [path]
  | n + 1, path =>
    match path.parent? with
    | none => [path]
    | some parent => path :: upward n parent

/-- The path and the paths above it, nearest first. Each of them has fewer pieces than the one
before. -/
def ancestors (path : Path) : List Path := upward path.pieces.length path

/-- The path and the paths above it that are made of a name at the end, so without the root and the
empty path. -/
def named (path : Path) : List Path :=
  path.ancestors.takeWhile fun ancestor => ancestor.text ≠ "" && ancestor.parent?.isSome

end Path

end FunctionForge
