import FunctionForge.Text.Basic
import FunctionForge.TypeExpr.Basic

/-!
# Symbol tables

A table holds the known qualified names of a compilation unit and its imports. A simple name is
looked up among the imports, then in the unit's own package, then in the default imports; a dotted
name must be known as it stands.
-/

namespace FunctionForge

/-! ### Declarations that are visible without an import -/

namespace Symbol

/-- The packages imported by default, in the order in which they are searched. -/
def defaultImports : List String := [
  "kotlin", "kotlin.annotation", "kotlin.collections", "kotlin.comparisons", "kotlin.io",
  "kotlin.ranges", "kotlin.sequences", "kotlin.text"]

/-- The qualified names that a table starts with. -/
def standardDeclarations : List String := [
  "kotlin.Any", "kotlin.Annotation", "kotlin.Array", "kotlin.Boolean", "kotlin.BooleanArray",
  "kotlin.Byte", "kotlin.ByteArray", "kotlin.Char", "kotlin.CharArray", "kotlin.CharSequence",
  "kotlin.Comparable", "kotlin.Double", "kotlin.DoubleArray", "kotlin.Enum", "kotlin.Error",
  "kotlin.Exception", "kotlin.Float", "kotlin.FloatArray", "kotlin.Function", "kotlin.Int",
  "kotlin.IntArray", "kotlin.Lazy", "kotlin.Long", "kotlin.LongArray", "kotlin.Nothing",
  "kotlin.Number", "kotlin.Pair", "kotlin.Result", "kotlin.Short", "kotlin.ShortArray",
  "kotlin.String", "kotlin.Throwable", "kotlin.Triple", "kotlin.UByte", "kotlin.UInt",
  "kotlin.ULong", "kotlin.UShort", "kotlin.Unit", "kotlin.collections.ArrayList",
  "kotlin.collections.Collection", "kotlin.collections.HashMap", "kotlin.collections.HashSet",
  "kotlin.collections.Iterable", "kotlin.collections.Iterator", "kotlin.collections.LinkedHashMap",
  "kotlin.collections.LinkedHashSet", "kotlin.collections.List", "kotlin.collections.ListIterator",
  "kotlin.collections.Map", "kotlin.collections.MutableCollection",
  "kotlin.collections.MutableIterable", "kotlin.collections.MutableList",
  "kotlin.collections.MutableMap", "kotlin.collections.MutableSet", "kotlin.collections.Set",
  "kotlin.comparisons.Comparator", "kotlin.ranges.CharRange", "kotlin.ranges.ClosedRange",
  "kotlin.ranges.IntRange", "kotlin.ranges.LongRange", "kotlin.sequences.Sequence",
  "kotlin.text.Appendable", "kotlin.text.Regex", "kotlin.text.StringBuilder"]

end Symbol

/-! ### Tables -/

/-- Maps a written name to the qualified name that it refers to. -/
abbrev Resolver := String → Option String

namespace Resolver

def unresolvedMessage (name : String) : String := "unresolvable type '" ++ name ++ "'"

end Resolver

/-- The known names and the imports of a compilation unit, imports as simple and qualified names
with the latest first. -/
structure SymbolTable where
  package : String
  known : List String
  imports : List (String × String)
  deriving Repr

namespace SymbolTable

def standard (package : String) : SymbolTable := ⟨package, Symbol.standardDeclarations, []⟩

def empty (package : String) : SymbolTable := ⟨package, [], []⟩

instance : Inhabited SymbolTable := ⟨standard ""⟩

def declare (table : SymbolTable) (name : String) : SymbolTable :=
  { table with known := name :: table.known }

/-- Makes a qualified name known, and its last segment a simple name for it. -/
def addImport (table : SymbolTable) (name : String) : SymbolTable :=
  { table with
    known := name :: table.known
    imports := (Text.lastSegment name, name) :: table.imports }

def isKnown (table : SymbolTable) (name : String) : Bool := table.known.contains name

@[simp] theorem isKnown_declare (table : SymbolTable) (name other : String) :
    (table.declare name).isKnown other = (other == name || table.isKnown other) :=
  List.contains_cons

@[simp] theorem isKnown_addImport (table : SymbolTable) (name other : String) :
    (table.addImport name).isKnown other = (other == name || table.isKnown other) :=
  List.contains_cons

/-- A simple name inside a package, if that is known. -/
def inPackage? (table : SymbolTable) (package simple : String) : Option String :=
  if table.isKnown (Text.qualify package simple) then some (Text.qualify package simple) else none

/-- The qualified name that a written name refers to. -/
def resolve? (table : SymbolTable) (written : String) : Option String :=
  if Text.isDotted written then if table.isKnown written then some written else none
  else (table.imports.lookup written).or <| (table.inPackage? table.package written).or <|
    Symbol.defaultImports.findSome? fun package => table.inPackage? package written

end SymbolTable

end FunctionForge
