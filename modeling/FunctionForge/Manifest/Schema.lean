import FunctionForge.Manifest.Basic
import FunctionForge.Manifest.Record
import FunctionForge.Toml.Document

/-!
# Reading manifests

The records of a manifest with their fields. The value of an option may be of any kind and becomes a
text. An annotation is a string or a table, and a table that states an annotation may have other
keys besides.
-/

namespace FunctionForge

namespace Schema

open Toml (Value)

/-- What a reader of values of any kind takes. -/
structure AnyValue where
  /-- What the reader expects, in messages. -/
  expected : String
  /-- Whether integers that need all 64 bits are taken. -/
  fullIntegers : Bool
  /-- Whether a table that starts with the key of points in time is one. -/
  datetimes : Bool

namespace AnyValue

/-- The values that may state an annotation. -/
def plain : AnyValue := ⟨"any value", true, false⟩

def option : AnyValue := ⟨"any valid TOML value", false, true⟩

def checkInteger (taken : AnyValue) (n : Int) : Except SchemaFault Unit :=
  if fitsSigned 64 n then .ok ()
  else if fitsUnsigned 64 n then (if taken.fullIntegers then .ok () else .error .largeInteger)
  else .error (mismatch taken.expected (.integer (some n)))

end AnyValue

/-- Reads the point in time that a text states. -/
def readDatetime : Value → Except SchemaFault Value
  | .string s =>
    match Toml.Datetime.ofText? s.toList with
    | some d => .ok (.datetime d)
    | none => .error .invalidDatetime
  | v => .error (mismatch "string containing a datetime" v)

mutual

/-- Reads a value of any kind. Its numbers are checked from left to right. A table that counts as a
point in time is one, and its other entries are not read. -/
def readAny (taken : AnyValue) : Value → Except SchemaFault Value
  | .integer none => .error .integerOverflow
  | .integer (some n) => do
    taken.checkInteger n
    return .integer (some n)
  | .real x => if x.rounded?.isSome then .ok (.real x) else .error .realOverflow
  | .array items => do return .array (← readAnyItems taken items)
  | .table [] => .ok (.table [])
  | .table ((key, v) :: rest) =>
    if taken.datetimes && key = datetimeKey then readDatetime v
    else do
      let v ← readAny taken v
      return .table ((key, v) :: (← readAnyEntries taken rest))
  | v => .ok v

def readAnyItems (taken : AnyValue) : List Value → Except SchemaFault (List Value)
  | [] => .ok []
  | v :: rest => do
    let v ← readAny taken v
    return v :: (← readAnyItems taken rest)

def readAnyEntries (taken : AnyValue) :
    List (String × Value) → Except SchemaFault (List (String × Value))
  | [] => .ok []
  | (key, v) :: rest => do
    let v ← readAny taken v
    return (key, v) :: (← readAnyEntries taken rest)

end

/-- Reads the value of an option: a string as it is, anything else as it is written. -/
def readOption (v : Value) : Except SchemaFault String := do
  let v ← readAny .option v
  match v, v.text? with
  | .string s, _ => return s
  | _, some text => return String.ofList text
  | _, none => throw .realOverflow

/-- The annotation that a value states, none if it states no annotation. -/
def annotationEntry? (v : Value) : Option AnnotationEntry :=
  match v with
  | .string name => some (.marker name)
  | v => do
    let entries ← entries? v
    let name ← (readString (← entries.lookup "name")).toOption
    match entries.lookup "arguments" with
    | none => return .full name []
    | some arguments => return .full name (← (readTable readString arguments).toOption)

def readAnnotation (v : Value) : Except SchemaFault AnnotationEntry := do
  match annotationEntry? (← readAny .plain v) with
  | some entry => return entry
  | none => throw .noVariant

end Schema

namespace Field

open Toml (Value)

variable {α β : Type}

def optional (name : String) (read : Value → Except SchemaFault β) (set : β → α → α) : Field α :=
  ⟨name, false, fun v draft => do return set (← read v) draft⟩

def mandatory (name : String) (read : Value → Except SchemaFault β) (set : β → α → α) : Field α :=
  ⟨name, true, fun v draft => do return set (← read v) draft⟩

end Field

namespace Manifest

open Schema (readString readArray readTable readOption readAnnotation)

def propertyRecord : Record PropertyEntry where
  name := "PropertyDef"
  fields := [
    .mandatory "name" readString fun name draft => { draft with name },
    .mandatory "type" readString fun type draft => { draft with type },
    .optional "annotations" (readArray readAnnotation) fun annotations draft =>
      { draft with annotations }]
  initial := ⟨"", "", []⟩

def declarationRecord : Record DeclarationEntry where
  name := "DeclarationDef"
  fields := [
    .mandatory "name" readString fun name draft => { draft with name },
    .optional "kind" readString fun kind draft => { draft with kind := some kind },
    .optional "annotations" (readArray readAnnotation) fun annotations draft =>
      { draft with annotations },
    .optional "properties" (readArray propertyRecord.read) fun properties draft =>
      { draft with properties }]
  initial := ⟨"", none, [], []⟩

/-- The record of the compilation unit. -/
def sourceRecord : Record SourceSection where
  name := "SourceConfig"
  fields := [
    .optional "package" readString fun package draft => { draft with package },
    .optional "imports" (readArray readString) fun imports draft => { draft with imports }]
  initial := empty.source

def outputRecord : Record OutputSection where
  name := "OutputConfig"
  fields := [
    .optional "package" readString fun package draft => { draft with package },
    .optional "file" readString fun file draft => { draft with file }]
  initial := empty.output

def record : Record Manifest where
  name := "Manifest"
  fields := [
    .optional "source" sourceRecord.read fun source draft => { draft with source },
    .optional "options" (readTable readOption) fun options draft => { draft with options },
    .optional "output" outputRecord.read fun output draft => { draft with output },
    .optional "declarations" (readArray declarationRecord.read) fun declarations draft =>
      { draft with declarations }]
  initial := empty

/-- Reads the manifest that a document states. -/
def read (document : String) : Except SchemaFault Manifest :=
  match Toml.parse document with
  | some entries => record.readEntries entries
  | none => .error .malformed

end Manifest

end FunctionForge
