import FunctionForge.Manifest.Basic
import FunctionForge.Manifest.Error
import FunctionForge.Declaration
import FunctionForge.TypeExpr.Parser

/-!
# From manifests to compilation units

The checks run in the order of the manifest: packages and the name of the file, imports, then each
declaration with its properties. The first one that fails is the error, and nothing is changed on
the way, so a manifest that passes them states its unit.

A name is an identifier of ASCII letters, digits and underscores, and no keyword. Packages and
imports are dotted identifiers, or empty.
-/

namespace FunctionForge

namespace Name

def keywords : List String :=
  ["as", "break", "class", "continue", "do", "else", "false", "for", "fun", "if", "in",
    "interface", "is", "null", "object", "package", "return", "super", "this", "throw", "true",
    "try", "typealias", "typeof", "val", "var", "when", "while"]

def isKeyword (name : String) : Bool := keywords.contains name

def startsIdentifier (c : Char) : Bool :=
  ('a' ≤ c && c ≤ 'z') || ('A' ≤ c && c ≤ 'Z') || c = '_'

/-- Whether a character may stand in an identifier. -/
def isIdentifierPart (c : Char) : Bool := startsIdentifier c || Text.isDigit c

/-- Why a text is no identifier. -/
inductive Fault where
  | empty
  | start
  | part
  deriving DecidableEq, Repr

def Fault.describe : Fault → String
  | empty => "name cannot be empty"
  | start => "name must start with a letter or underscore"
  | part => "name must contain only letters, numbers, and underscores"

/-- What is wrong with a text as an identifier, if anything is. -/
def fault? : List Char → Option Fault
  | [] => some .empty
  | c :: rest =>
    if !startsIdentifier c then some .start
    else if rest.all isIdentifierPart then none
    else some .part

/-- What is wrong with a text as a dotted identifier: the fault of its first bad segment. -/
def dottedFault? (name : String) : Option Fault :=
  (Text.splitAt '.' name.toList).findSome? fault?

/-- Checks a name. The context tells what the name is for. -/
def check (source context name : String) : Except ManifestError Unit :=
  if isKeyword name then .error (.keyword name context (Span.name? source name))
  else match fault? name.toList with
    | some fault => .error (.identifier name context fault.describe (Span.name? source name))
    | none => .ok ()

/-- Checks a dotted name, which may be empty. -/
def checkDotted (source context name : String) : Except ManifestError Unit :=
  if name = "" then .ok ()
  else match dottedFault? name with
    | some fault => .error (.identifier name context fault.describe (Span.value? source name))
    | none => .ok ()

end Name

namespace Manifest

/-- Checks that a name was not given before. -/
def checkFresh (source context : String) (seen : List String) (name : String) :
    Except ManifestError Unit :=
  if seen.contains name then
    let places := Span.names source name
    .error (.duplicate name context places.head? places[1]?)
  else .ok ()

/-- Checks imports after others. No two may have the same last segment. -/
def checkImports (source : String) (seen : List String) : List String → Except ManifestError Unit
  | [] => .ok ()
  | name :: rest => do
    Name.checkDotted source "import" name
    match seen.find? fun other => Text.lastSegment other = Text.lastSegment name with
    | some other =>
      .error (.invalid ("import '" ++ name ++ "' conflicts with '" ++ other ++ "'")
        (Span.value? source name))
    | none => checkImports source (name :: seen) rest

/-- The kind that a declaration states. -/
def kindOf (source : String) : Option String → Except ManifestError Kind
  | none => .ok .default
  | some name =>
    match Kind.ofName? name with
    | some kind => .ok kind
    | none => .error (.unknownKind name (Span.value? source name))

def typeOf (source text : String) : Except ManifestError TypeRef :=
  match TypeExpr.parse text with
  | .ok type => .ok type
  | .error e => .error (.badType text e.message (Span.type? source text e.offset))

/-- What a property of a declaration is called in messages. -/
def propertyContext (owner : String) : String := "property in '" ++ owner ++ "'"

/-- The properties of a declaration after others with the names seen. -/
def propertiesOf (source owner : String) (seen : List String) :
    List PropertyEntry → Except ManifestError (List Property)
  | [] => .ok []
  | entry :: rest => do
    Name.check source (propertyContext owner) entry.name
    checkFresh source (propertyContext owner) seen entry.name
    let type ← typeOf source entry.type
    let properties ← propertiesOf source owner (entry.name :: seen) rest
    return ⟨entry.name, type, entry.annotations.map AnnotationEntry.mark⟩ :: properties

/-- The declaration that an entry states, apart from its name. -/
def declarationOf (source package : String) (entry : DeclarationEntry) :
    Except ManifestError Declaration := do
  let kind ← kindOf source entry.kind
  let properties ← propertiesOf source entry.name [] entry.properties
  return ⟨entry.name, package, kind, entry.annotations.map AnnotationEntry.mark, properties⟩

/-- The declarations of a package after others with the names seen. -/
def declarationsOf (source package : String) (seen : List String) :
    List DeclarationEntry → Except ManifestError (List Declaration)
  | [] => .ok []
  | entry :: rest => do
    Name.check source "declaration" entry.name
    checkFresh source "declaration" seen entry.name
    let declaration ← declarationOf source package entry
    let declarations ← declarationsOf source package (entry.name :: seen) rest
    return declaration :: declarations

/-- The table of a package with imports. -/
def tableOf (source : SourceSection) : SymbolTable :=
  source.imports.foldl SymbolTable.addImport (.standard source.package)

/-- The unit that a manifest states. The text of the manifest is only used for the places in errors.
-/
def toUnit (manifest : Manifest) (source : String) : Except ManifestError CompilationUnit := do
  Name.checkDotted source "package" manifest.source.package
  Name.checkDotted source "output package" manifest.output.package
  Name.check source "output file" manifest.output.file
  checkImports source [] manifest.source.imports
  let declarations ← declarationsOf source manifest.source.package [] manifest.declarations
  return declarations.foldl CompilationUnit.push (.ofTable (tableOf manifest.source))

end Manifest

end FunctionForge
