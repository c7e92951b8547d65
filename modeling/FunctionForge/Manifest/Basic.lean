import FunctionForge.Declaration
import FunctionForge.Options
import FunctionForge.Output.Sink

/-!
# Manifests

A manifest states a compilation unit, the options of its passes, and where the generated file goes.
This is what was written, before anything is checked. Types are still texts.
-/

namespace FunctionForge

/-- An annotation as written: a bare name, or a name with arguments. -/
inductive AnnotationEntry where
  | marker (name : String)
  | full (name : String) (arguments : List (String × String))
  deriving DecidableEq, Repr

def AnnotationEntry.mark : AnnotationEntry → Annotation
  | marker name => .marker name
  | full name arguments => ⟨name, arguments⟩

/-- A property as written. -/
structure PropertyEntry where
  name : String
  type : String
  annotations : List AnnotationEntry
  deriving DecidableEq, Repr

/-- A declaration as written. -/
structure DeclarationEntry where
  name : String
  kind : Option String
  annotations : List AnnotationEntry
  properties : List PropertyEntry
  deriving DecidableEq, Repr

/-- The package of all declarations and what it imports. -/
structure SourceSection where
  package : String
  imports : List String
  deriving DecidableEq, Repr

/-- The package and the name of the generated file. -/
structure OutputSection where
  package : String
  file : String
  deriving DecidableEq, Repr

def OutputSection.location (output : OutputSection) : Location := .new output.package output.file

/-- A manifest as written, with the values of its options as texts. -/
structure Manifest where
  source : SourceSection
  options : OptionArgs
  output : OutputSection
  declarations : List DeclarationEntry
  deriving DecidableEq, Repr

namespace Manifest

/-- The name of the file that is read when none is given. -/
def standardFile : String := "functions.toml"

def empty : Manifest := ⟨⟨"", []⟩, [], ⟨"", Location.defaultFile⟩, []⟩

instance : Inhabited Manifest := ⟨empty⟩

end Manifest

end FunctionForge
