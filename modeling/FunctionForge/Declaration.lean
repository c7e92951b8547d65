import FunctionForge.Symbol.Table

/-!
# Declarations

A declaration is a class-like symbol with its annotations and its properties, both in written order.
Only the short name of an annotation is kept. A compilation unit is a list of declarations with a
table that knows each of them.
-/

namespace FunctionForge

/-- The kind of a declaration. -/
inductive Kind where
  | interface
  | plainClass
  | enumClass
  | enumEntry
  | object
  | annotationClass
  deriving DecidableEq, Repr

namespace Kind

def all : List Kind := [interface, plainClass, enumClass, enumEntry, object, annotationClass]

def default : Kind := interface

instance : Inhabited Kind := ⟨default⟩

def name : Kind → String
  | interface => "interface"
  | plainClass => "class"
  | enumClass => "enum_class"
  | enumEntry => "enum_entry"
  | object => "object"
  | annotationClass => "annotation_class"

def ofName? (s : String) : Option Kind := all.find? fun kind => kind.name = s

/-- The place of a kind among all kinds. -/
def index (kind : Kind) : Nat := all.idxOf kind

theorem ofName?_name (kind : Kind) : ofName? kind.name = some kind := by
  cases kind <;> decide

def unknownMessage (s : String) : String := "unknown declaration kind '" ++ s ++ "'"

end Kind

/-- An annotation by short name with its named arguments in written order. -/
structure Annotation where
  name : String
  arguments : List (String × String)
  deriving DecidableEq, Repr

namespace Annotation

def marker (name : String) : Annotation := ⟨name, []⟩

/-- The value of the first argument with a name. -/
def argument? (mark : Annotation) (key : String) : Option String :=
  mark.arguments.lookup key

end Annotation

/-- A property of a declaration. -/
structure Property where
  name : String
  type : TypeRef
  annotations : List Annotation

namespace Property

def annotationCount (property : Property) (name : String) : Nat :=
  property.annotations.countP fun mark => mark.name = name

def isAnnotated (property : Property) (name : String) : Bool := property.annotationCount name > 0

end Property

/-- A declaration of a package. -/
structure Declaration where
  name : String
  package : String
  kind : Kind
  annotations : List Annotation
  properties : List Property

namespace Declaration

/-- The name inside the package; in the root package the name itself. -/
def qualifiedName (declaration : Declaration) : String :=
  Text.qualify declaration.package declaration.name

def annotation? (declaration : Declaration) (name : String) : Option Annotation :=
  declaration.annotations.find? fun mark => mark.name = name

def isAnnotated (declaration : Declaration) (name : String) : Bool :=
  (declaration.annotation? name).isSome

end Declaration

/-! ### Compilation units -/

/-- The declarations of a unit in source order, and the table that resolves names for them. -/
structure CompilationUnit where
  declarations : List Declaration
  table : SymbolTable

namespace CompilationUnit

def ofTable (table : SymbolTable) : CompilationUnit := ⟨[], table⟩

/-- Adds a declaration and makes its qualified name known. -/
def push (unit : CompilationUnit) (declaration : Declaration) : CompilationUnit :=
  ⟨unit.declarations ++ [declaration], unit.table.declare declaration.qualifiedName⟩

/-- The declarations that have an annotation, in source order. -/
def annotatedWith (unit : CompilationUnit) (name : String) : List Declaration :=
  unit.declarations.filter fun declaration => declaration.isAnnotated name

def resolver (unit : CompilationUnit) : Resolver := unit.table.resolve?

end CompilationUnit

end FunctionForge
