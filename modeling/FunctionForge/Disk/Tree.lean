import FunctionForge.Disk.Basic
import FunctionForge.Text.Basic

/-!
# File trees

A tree in memory holds directories and files under their full names, and a directory that relative
paths start from. There are no links and no permissions, so a path leads to one place or to none.
-/

namespace FunctionForge

/-- What stands under a name. -/
inductive TreeEntry where
  | directory
  | file (content : ByteArray)

/-- The names from the root to a place. -/
abbrev Place := List String

/-- The entries of a tree, each after the directory that it is in, and the place relative paths
start from. The root itself is no entry. -/
structure FileTree where
  entries : List (Place × TreeEntry)
  current : Place

namespace FileTree

/-- The tree with nothing in the directory that relative paths start from. -/
def fresh : FileTree := ⟨[(["work"], .directory)], ["work"]⟩

instance : Inhabited FileTree := ⟨fresh⟩

def get? (tree : FileTree) (place : Place) : Option TreeEntry :=
  if place = [] then some .directory else tree.entries.lookup place

/-- Puts an entry at a place, instead of what is there. -/
def put (tree : FileTree) (place : Place) (entry : TreeEntry) : FileTree :=
  { tree with
    entries :=
      if (tree.entries.lookup place).isSome then
        tree.entries.map fun (p, old) => if p = place then (p, entry) else (p, old)
      else tree.entries ++ [(place, entry)] }

def delete (tree : FileTree) (place : Place) : FileTree :=
  { tree with entries := tree.entries.filter fun (p, _) => p ≠ place }

private theorem lookup_map_put (entries : List (Place × TreeEntry)) (place other : Place)
    (entry : TreeEntry) :
    (entries.map fun (p, old) => if p = place then (p, entry) else (p, old)).lookup other =
      if other = place then (entries.lookup place).map fun _ => entry
      else entries.lookup other := by
  induction entries with
  | nil => simp
  | cons head rest ih =>
    obtain ⟨p, old⟩ := head
    simp only [List.map_cons]
    by_cases hp : p = place
    · subst hp
      rw [if_pos rfl, List.lookup_cons, List.lookup_cons, List.lookup_cons, ih, beq_self_eq_true]
      by_cases h : other = p
      · rw [if_pos h, if_pos h, beq_iff_eq.2 h]
        rfl
      · rw [if_neg h, if_neg h, beq_eq_false_iff_ne.2 h]
    · rw [if_neg hp, List.lookup_cons, List.lookup_cons, List.lookup_cons, ih,
        beq_eq_false_iff_ne.2 (Ne.symm hp)]
      by_cases h : other = p
      · subst h
        simp [hp]
      · rw [beq_eq_false_iff_ne.2 h]

/-- Putting an entry changes its place only. -/
theorem get?_put (tree : FileTree) {place : Place} (entry : TreeEntry) (other : Place)
    (h : place ≠ []) :
    (tree.put place entry).get? other =
      if other = place then some entry else tree.get? other := by
  by_cases hroot : other = []
  · subst hroot
    rw [if_neg (Ne.symm h)]
    rfl
  · rw [get?, if_neg hroot, get?, if_neg hroot, put]
    cases hold : tree.entries.lookup place with
    | some old => simp only [Option.isSome_some, if_true, lookup_map_put, hold, Option.map_some]
    | none =>
      simp only [Option.isSome_none, Bool.false_eq_true, if_false, List.lookup_append,
        List.lookup_cons, List.lookup_nil]
      by_cases h : other = place
      · rw [if_pos h, h, hold, beq_self_eq_true]
        rfl
      · rw [if_neg h, beq_eq_false_iff_ne.2 h, Option.or_none]

/-- Taking an entry away changes its place only. -/
theorem get?_delete (tree : FileTree) {place : Place} (other : Place) (h : place ≠ []) :
    (tree.delete place).get? other = if other = place then none else tree.get? other := by
  by_cases hroot : other = []
  · subst hroot
    rw [if_neg (Ne.symm h)]
    rfl
  · rw [get?, if_neg hroot, get?, if_neg hroot, delete]
    induction tree.entries with
    | nil => simp
    | cons head rest ih =>
      obtain ⟨p, old⟩ := head
      by_cases hp : p = place
      · rw [List.filter_cons_of_neg (by simp [hp]), ih, List.lookup_cons]
        by_cases h : other = place
        · rw [if_pos h, if_pos h]
        · rw [if_neg h, if_neg h, beq_eq_false_iff_ne.2 (hp ▸ h)]
      · rw [List.filter_cons_of_pos (by simp [hp]), List.lookup_cons, List.lookup_cons, ih]
        by_cases h : other = p
        · subst h
          simp [hp]
        · rw [beq_eq_false_iff_ne.2 h]

/-- The number of bytes that a name may have. -/
def nameBound : Nat := 255

/-- The number of bytes that a path may have. -/
def pathBound : Nat := 4095

/-- Follows steps from a place. Each must start in a directory, while the last may lead to nothing.
-/
def walk (tree : FileTree) (place : Place) : List String → Except DiskError Place
  | [] => .ok place
  | step :: rest =>
    match tree.get? place with
    | none => .error .notFound
    | some (.file _) => .error .notDirectory
    | some .directory =>
      if step = "." then walk tree place rest
      else if step = ".." then walk tree place.dropLast rest
      else if Text.size step > nameBound then .error .nameTooLong
      else walk tree (place ++ [step]) rest

def steps (path : Path) : List String :=
  (path.pieces.filter (· ≠ [])).map String.ofList

/-- Whether a path can only lead to a directory, because of a slash or dots at its end. -/
def endsInDirectory (path : Path) : Bool :=
  match path.pieces.getLast? with
  | some piece => piece = [] || piece = ['.'] || piece = ['.', '.']
  | none => false

def locate (tree : FileTree) (path : Path) : Except DiskError Place :=
  if path.text.toList.contains '\x00' then .error .zeroInName
  else if path.text = "" then .error .notFound
  else if Text.size path.text > pathBound then .error .nameTooLong
  else tree.walk (if path.isAbsolute then [] else tree.current) (steps path)

/-- The place that a path leads to, with what stands there. -/
def find (tree : FileTree) (path : Path) : Except DiskError (Place × Option TreeEntry) := do
  let place ← tree.locate path
  match tree.get? place with
  | some (.file _) =>
    if endsInDirectory path then throw .notDirectory else return (place, tree.get? place)
  | found => return (place, found)

def read (tree : FileTree) (path : Path) : Except DiskError String := do
  match ← tree.find path with
  | (_, none) => throw .notFound
  | (_, some .directory) => throw .isDirectory
  | (_, some (.file content)) =>
    match String.fromUTF8? content with
    | some text => return text
    | none => throw .invalidText

def isDirectory (tree : FileTree) (path : Path) : Bool :=
  match tree.find path with
  | .ok (_, some .directory) => true
  | _ => false

def makeDirectory (tree : FileTree) (path : Path) : Except DiskError FileTree := do
  match tree.get? (← tree.locate path) with
  | some _ => throw .alreadyExists
  | none => return tree.put (← tree.locate path) .directory

/-- Makes a file with a content, instead of the one that is there. -/
def write (tree : FileTree) (path : Path) (content : ByteArray) : Except DiskError FileTree := do
  match ← tree.find path with
  | (_, some .directory) => throw .isDirectory
  | (place, some (.file _)) => return tree.put place (.file content)
  | (place, none) =>
    if endsInDirectory path then throw .isDirectory else return tree.put place (.file content)

def append (tree : FileTree) (path : Path) (content : ByteArray) : Except DiskError FileTree := do
  match ← tree.find path with
  | (place, some (.file before)) => return tree.put place (.file (before ++ content))
  | (_, some .directory) => throw .isDirectory
  | (_, none) => throw .notFound

def remove (tree : FileTree) (path : Path) : Except DiskError FileTree := do
  match ← tree.find path with
  | (place, some (.file _)) => return tree.delete place
  | (_, some .directory) => throw .isDirectory
  | (_, none) => throw .notFound

/-- A request that changes the tree if it succeeds. -/
def request (change : FileTree → Except DiskError FileTree) :
    StateM FileTree (Except DiskError Unit) := fun tree =>
  match change tree with
  | .ok next => (.ok (), next)
  | .error e => (.error e, tree)

/-- The disk that a tree is. -/
def disk : Disk (StateM FileTree) where
  read path := do return (← get).read path
  isDirectory path := do return (← get).isDirectory path
  makeDirectory path := request (·.makeDirectory path)
  create path := request (·.write path .empty)
  append path text := request (·.append path text.toUTF8)
  remove path := request (·.remove path)

/-- Whether something stands below a place. -/
def isOccupied (tree : FileTree) (place : Place) : Bool :=
  tree.entries.any fun (p, _) => place.isPrefixOf p && p ≠ place

/-- Puts a line into its place among lines that are sorted by name. -/
def insertListed (name : String) (text : Option String) :
    List (String × Option String) → List (String × Option String)
  | [] => [(name, text)]
  | (n, t) :: rest =>
    if name < n then (name, text) :: (n, t) :: rest else (n, t) :: insertListed name text rest

/-- The files below the current directory with their texts, and the directories that nothing is in,
sorted by name. -/
def listing (tree : FileTree) : List (String × Option String) :=
  tree.entries.foldr (fun (place, entry) lines =>
    if tree.current.isPrefixOf place && place ≠ tree.current then
      let name := String.intercalate "/" (place.drop tree.current.length)
      match entry with
      | .file content => insertListed name (some ((String.fromUTF8? content).getD "")) lines
      | .directory => if tree.isOccupied place then lines else insertListed name none lines
    else lines) []

end FileTree

end FunctionForge
