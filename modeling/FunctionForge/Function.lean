import FunctionForge.Text.Indented
import FunctionForge.Options
import FunctionForge.Output.Sink
import FunctionForge.Rendering
import FunctionForge.Declaration

/-!
# The function of a declaration

An interface becomes one function. Each property is a parameter line and a statement of the body,
and a property marked as returned gives the return type and the last statement. A type that does not
resolve is reported and left out.
-/

namespace FunctionForge

def functionAnnotation : String := "Function"

/-- The argument of the function annotation that names the function. -/
def nameArgument : String := "name"

def returnsAnnotation : String := "Returns"

/-- Why a pass ends early. -/
inductive GenerationError where
  | ambiguousReturn (declaration : String) (count : Nat)
  | notAnnotated (declaration : String)
  | missingArgument (declaration : String)
  | io (error : WriteError)
  deriving DecidableEq, Repr

namespace GenerationError

/-- The message of an error, without the cause of a failed write. -/
def message : GenerationError → String
  | ambiguousReturn declaration count =>
    "Can't use @Returns on more than one property (found " ++ toString count ++ " in '" ++
      declaration ++ "')"
  | notAnnotated declaration =>
    "'" ++ declaration ++ "' is not annotated with @" ++ functionAnnotation
  | missingArgument declaration =>
    "@" ++ functionAnnotation ++ " on '" ++ declaration ++ "' is missing required argument '" ++
      nameArgument ++ "'"
  | io error => "failed to write '" ++ error.path.text ++ "'"

def cause? : GenerationError → Option String
  | io error => some error.cause
  | _ => none

def fullMessage (e : GenerationError) : String :=
  match e.cause? with
  | some cause => e.message ++ ": " ++ cause
  | none => e.message

end GenerationError

/-- The texts that a property contributes, and its type as rendered if that resolves. -/
structure Fragments where
  signature : String
  body : String
  rendered : Option String
  deriving DecidableEq, Repr

namespace Property

def symbol (owner : String) (property : Property) : String := owner ++ "." ++ property.name

/-- The type of a property as rendered, with what is reported about it. -/
def renderedType (resolver : Resolver) (options : Options) (owner : String) (property : Property) :
    Option String × DiagnosticLog :=
  match Rendering.type resolver options.ignoreGenericArgs (property.symbol owner) property.type with
  | .ok (text, log) => (some text, log)
  | .error name =>
    (none, [.error ("Invalid property type '" ++ name ++ "'") (property.symbol owner)])

def parameter (property : Property) : Option String → String
  | some type => property.name ++ ": " ++ type ++ ","
  | none => property.name ++ ","

def printStatement (property : Property) : String := "println(\"$" ++ property.name ++ "\")"

/-- The texts of a property of the named owner, with what is reported about it. -/
def fragments (resolver : Resolver) (options : Options) (owner : String) (property : Property) :
    Fragments × DiagnosticLog :=
  let (rendered, log) := property.renderedType resolver options owner
  (⟨(Text.Indented.standard.deeper.line (property.parameter rendered)).text,
    (Text.Indented.standard.deeper.line property.printStatement).text, rendered⟩, log)

end Property

/-- What has been collected from the properties visited so far. -/
structure Parts where
  function : Text.Indented
  body : Text.Indented
  markers : Nat
  returned : Option (Property × Option String)

namespace Parts

/-- Adds a property. The first one that is marked as returned is remembered. -/
def add (parts : Parts) (property : Property) (fragments : Fragments) : Parts where
  function := parts.function.raw fragments.signature
  body := parts.body.raw fragments.body
  markers := parts.markers + property.annotationCount returnsAnnotation
  returned :=
    parts.returned.or <|
      if property.isAnnotated returnsAnnotation then some (property, fragments.rendered) else none

/-- Adds properties in order and collects what is reported about them. -/
def addAll (resolver : Resolver) (options : Options) (owner : String) :
    List Property → Parts → Parts × DiagnosticLog
  | [], parts => (parts, [])
  | property :: rest, parts =>
    let (fragments, log) := property.fragments resolver options owner
    let (parts, restLog) := addAll resolver options owner rest (parts.add property fragments)
    (parts, log ++ restLog)

end Parts

namespace Declaration

def functionName (declaration : Declaration) : Except GenerationError String :=
  match declaration.annotation? functionAnnotation with
  | none => .error (.notAnnotated declaration.qualifiedName)
  | some mark =>
    match mark.argument? nameArgument with
    | none => .error (.missingArgument declaration.qualifiedName)
    | some name => .ok name

def plainFunction (name : String) : String :=
  (Text.Indented.standard.blank
    |>.line ("fun " ++ name ++ "() \x7b")
    |>.deeper
    |>.line ("println(\"Hello from " ++ name ++ "\")")
    |>.shallower
    |>.line "\x7d").text

def notInterface (declaration : Declaration) : Diagnostic :=
  .error ("Only interfaces can be annotated with @" ++ functionAnnotation) declaration.qualifiedName

/-- The report of a returned property whose type does not resolve. -/
def unresolvedReturn (declaration : Declaration) (property : Property) : Diagnostic :=
  .warning ("Return type of '" ++ property.name ++
    "' could not be resolved; generating without a return value")
    (property.symbol declaration.qualifiedName)

/-- Puts the signature and the body together, with the return type and statement if there are any.
-/
def assemble (declaration : Declaration) (parts : Parts) : String × DiagnosticLog :=
  match parts.returned with
  | some (property, some type) =>
    (((parts.function.line ("): " ++ type ++ " \x7b")).raw
      (parts.body.line ("return " ++ property.name)).text |>.line "\x7d").text, [])
  | some (property, none) =>
    (((parts.function.line ") \x7b").raw parts.body.text |>.line "\x7d").text,
      [declaration.unresolvedReturn property])
  | none => (((parts.function.line ") \x7b").raw parts.body.text |>.line "\x7d").text, [])

/-- The function of a declaration, with what is reported about it. A declaration that is no
interface is skipped. -/
def function (resolver : Resolver) (options : Options) (declaration : Declaration) :
    Except GenerationError (Option String) × DiagnosticLog :=
  if declaration.kind ≠ .interface then (.ok none, [declaration.notInterface])
  else match declaration.functionName with
    | .error e => (.error e, [])
    | .ok name =>
      if declaration.properties.isEmpty then (.ok (some (plainFunction name)), [])
      else
        let (parts, log) := Parts.addAll resolver options declaration.qualifiedName
          declaration.properties
          ⟨Text.Indented.standard.blank.line ("fun " ++ name ++ "("),
            Text.Indented.standard.deeper, 0, none⟩
        if parts.markers > 1 then
          (.error (.ambiguousReturn declaration.qualifiedName parts.markers), log)
        else
          let (text, returnLog) := declaration.assemble parts
          (.ok (some text), log ++ returnLog)

end Declaration

end FunctionForge
