import FunctionForge.Toml.Scalar

/-!
# Tables under construction

While a document is read, a table remembers how it came about, because that decides who may add to
it: a table that was only named on the way to another one may still get a header of its own, and a
table that was named in a dotted key may only get more dotted keys. A value that is complete, a
table in braces for example, takes no more entries.
-/

namespace FunctionForge.Toml

/-- How a table came about. -/
inductive Origin where
  /-- Named in the header of a table below it. -/
  | implied
  /-- Named in a dotted key. -/
  | dotted
  /-- By its own header or braces. -/
  | stated
  deriving DecidableEq, Repr

/-- What stands under a key. -/
inductive Node where
  | value (v : Value)
  | table (origin : Origin) (entries : List (String × Node))
  /-- Tables with headers in double brackets, the last one first. -/
  | tables (items : List (List (String × Node)))

instance : Inhabited Node := ⟨.tables []⟩

/-- The entries of a table under construction. -/
abbrev Entries := List (String × Node)

namespace Entries

def replace (entries : Entries) (key : String) (node : Node) : Entries :=
  entries.map fun (k, old) => if k = key then (k, node) else (k, old)

/-- The greatest number of keys on the way to a table. -/
def depthBound : Nat := 80

/-- Changes the table at the end of a path. Tables on the way that do not exist come about as told,
and the last one of several is taken. A dotted key does not go through a table with a header of its
own. -/
def changeAt (origin : Origin) (change : Origin → Entries → Option Entries) :
    List String → Origin → Entries → Option Entries
  | [], here, entries => change here entries
  | key :: path, _, entries =>
    match entries.lookup key with
    | none => do
      let child ← changeAt origin change path origin []
      return entries ++ [(key, .table origin child)]
    | some (.table childOrigin child) => do
      guard (origin ≠ .dotted ∨ childOrigin ≠ .stated)
      let child ← changeAt origin change path childOrigin child
      return entries.replace key (.table childOrigin child)
    | some (.tables (last :: earlier)) => do
      let last ← changeAt origin change path .stated last
      return entries.replace key (.tables (last :: earlier))
    | some _ => none

/-- Adds a value under a dotted key. A dotted key adds only to a table that dotted keys made, and a
plain key never does. -/
def insert (path : List String) (key : String) (value : Value) (entries : Entries) :
    Option Entries := do
  guard (path.length ≤ depthBound)
  changeAt .dotted (fun origin entries => do
    guard ((origin = .dotted) ↔ path ≠ [])
    guard (entries.lookup key).isNone
    return entries ++ [(key, .value value)]) path .stated entries

def insertBelow (header path : List String) (key : String) (value : Value) (entries : Entries) :
    Option Entries :=
  changeAt .implied (fun _ entries => entries.insert path key value) header .stated entries

/-- Adds a table with a header. It may have come about on the way to another one. -/
def stateTable (path : List String) (key : String) (entries : Entries) : Option Entries := do
  guard (path.length ≤ depthBound)
  changeAt .implied (fun _ entries =>
    match entries.lookup key with
    | none => some (entries ++ [(key, .table .stated [])])
    | some (.table .implied child) => some (entries.replace key (.table .stated child))
    | some _ => none) path .stated entries

/-- Adds a table with a header in double brackets after those with the same header. -/
def appendTable (path : List String) (key : String) (entries : Entries) : Option Entries := do
  guard (path.length ≤ depthBound)
  changeAt .implied (fun _ entries =>
    match entries.lookup key with
    | none => some (entries ++ [(key, .tables [[]])])
    | some (.tables items) => some (entries.replace key (.tables ([] :: items)))
    | some _ => none) path .stated entries

end Entries

/-- Puts an entry into its place among entries that are sorted by key. -/
def insertSorted (key : String) (value : Value) : List (String × Value) → List (String × Value)
  | [] => [(key, value)]
  | (k, v) :: rest =>
    if key < k then (key, value) :: (k, v) :: rest else (k, v) :: insertSorted key value rest

mutual

def Node.complete : Node → Value
  | .value v => v
  | .table _ entries => .table (completeEntries entries)
  | .tables items => .array (completeTables items).reverse

/-- The entries of a table, sorted by key. -/
def completeEntries : List (String × Node) → List (String × Value)
  | [] => []
  | (key, node) :: rest => insertSorted key node.complete (completeEntries rest)

def completeTables : List (List (String × Node)) → List Value
  | [] => []
  | entries :: rest => .table (completeEntries entries) :: completeTables rest

end

end FunctionForge.Toml
