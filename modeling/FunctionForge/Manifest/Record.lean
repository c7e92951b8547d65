import FunctionForge.Text.Invisible
import FunctionForge.Toml.Text

/-!
# Reading records from documents

A record is read from a table, field by field in the order of its keys, or from an array with the
fields in their order. A table may have no other keys, and the first problem ends the reading.
-/

namespace FunctionForge

open Toml (Value)

/-- Why a document is no manifest. -/
inductive SchemaFault where
  | malformed
  | unknownField (key : String) (fields : List String)
  | missingField (name : String)
  | invalidType (found expected : String)
  | invalidLength (length : Nat) (record : String) (fields : Nat)
  | noVariant
  | integerOverflow
  | largeInteger
  | realOverflow
  | invalidDatetime
  deriving DecidableEq, Repr

namespace SchemaFault

def quoted (name : String) : String := "`" ++ name ++ "`"

def offered : List String → String
  | [a, b] => "expected " ++ quoted a ++ " or " ++ quoted b
  | fields => "expected one of " ++ String.intercalate ", " (fields.map quoted)

def message : SchemaFault → String
  | malformed => "invalid document"
  | unknownField key fields => "unknown field " ++ quoted key ++ ", " ++ offered fields
  | missingField name => "missing field " ++ quoted name
  | invalidType found expected => "invalid type: " ++ found ++ ", expected " ++ expected
  | invalidLength length record fields =>
    "invalid length " ++ toString length ++ ", expected struct " ++ record ++ " with " ++
      toString fields ++ " elements"
  | noVariant => "data did not match any variant of untagged enum AnnotationDef"
  | integerOverflow => "integer number overflowed"
  | largeInteger => "u64 value was too large"
  | realOverflow => "floating-point number overflowed"
  | invalidDatetime => "invalid datetime"

end SchemaFault

namespace Schema

/-- A character of a string in a message. One that shows nothing, or only shows on the character in
front of it, is written as its code. -/
def quotedCharacter (c : Char) : List Char :=
  if c = '"' then ['\\', '"']
  else if c = '\\' then ['\\', '\\']
  else if c = '\n' then ['\\', 'n']
  else if c = '\r' then ['\\', 'r']
  else if c = '\t' then ['\\', 't']
  else if c = '\x00' then ['\\', '0']
  else if Text.isExtender c || (Text.isInvisible c && c ≠ ' ') then
    ['\\', 'u', Char.ofNat 123] ++ Nat.toDigits 16 c.toNat ++ [Char.ofNat 125]
  else [c]

def quotedString (s : String) : String :=
  String.ofList ('"' :: s.toList.flatMap quotedCharacter ++ ['"'])

def numberInMessage : Binary64 → String
  | .nan => "NaN"
  | x => x.text

/-- Whether an integer has a sign and fits into a number of bits. -/
def fitsSigned (bits : Nat) (n : Int) : Bool :=
  -(Nat.pow 2 (bits - 1) : Int) ≤ n && n < (Nat.pow 2 (bits - 1) : Int)

/-- Whether an integer has no sign and fits into a number of bits. -/
def fitsUnsigned (bits : Nat) (n : Int) : Bool := 0 ≤ n && n < (Nat.pow 2 bits : Int)

/-- How an integer is called in a message, none if it is too large for one. -/
def integerInMessage? (n : Int) : Option String :=
  let text := "integer `" ++ toString n ++ "`"
  if fitsSigned 64 n || fitsUnsigned 64 n then some text
  else if fitsSigned 128 n then some (text ++ " as i128")
  else if fitsUnsigned 128 n then some (text ++ " as u128")
  else none

/-- The key under which a point in time counts as a table of one entry. -/
def datetimeKey : String := "$__toml_private_datetime"

/-- The fault of a value where something else was expected. -/
def mismatch (expected : String) : Value → SchemaFault
  | .string s => .invalidType ("string " ++ quotedString s) expected
  | .integer n =>
    match n.bind integerInMessage? with
    | some text => .invalidType text expected
    | none => .integerOverflow
  | .real x =>
    match x.rounded? with
    | some number => .invalidType ("floating point `" ++ numberInMessage number ++ "`") expected
    | none => .realOverflow
  | .boolean b => .invalidType ("boolean `" ++ toString b ++ "`") expected
  | .array _ => .invalidType "sequence" expected
  | .datetime _ | .table _ => .invalidType "map" expected

def entries? : Value → Option (List (String × Value))
  | .table entries => some entries
  | .datetime d => some [(datetimeKey, .string d.text)]
  | _ => none

def readString : Value → Except SchemaFault String
  | .string s => .ok s
  | v => .error (mismatch "a string" v)

def readArray {α : Type} (read : Value → Except SchemaFault α) : Value → Except SchemaFault (List α)
  | .array items => items.mapM read
  | v => .error (mismatch "a sequence" v)

def readTable {α : Type} (read : Value → Except SchemaFault α) (v : Value) :
    Except SchemaFault (List (String × α)) :=
  match entries? v with
  | some entries => entries.mapM fun (key, v) => do return (key, ← read v)
  | none => .error (mismatch "a map" v)

end Schema

/-- A field of a record: its key, whether it must be there, and how its value changes the record. -/
structure Field (α : Type) where
  name : String
  required : Bool
  read : Value → α → Except SchemaFault α

/-- What a record is called, its fields in order, and the record in which no field is set. -/
structure Record (α : Type) where
  name : String
  fields : List (Field α)
  initial : α

namespace Record

variable {α : Type}

def keys (record : Record α) : List String := record.fields.map Field.name

def readEntry (record : Record α) (draft : α) (entry : String × Value) : Except SchemaFault α :=
  match record.fields.find? fun field => field.name = entry.1 with
  | some field => field.read entry.2 draft
  | none => .error (.unknownField entry.1 record.keys)

def readEntries (record : Record α) (entries : List (String × Value)) : Except SchemaFault α := do
  let draft ← entries.foldlM record.readEntry record.initial
  match record.fields.find? fun field => field.required && (entries.lookup field.name).isNone with
  | some field => .error (.missingField field.name)
  | none => .ok draft

/-- Reads a record from items in the order of its fields. More items than fields are ignored. -/
def readItems (record : Record α) (items : List Value) : Except SchemaFault α := do
  let draft ← (record.fields.zip items).foldlM (fun draft (field, v) => field.read v draft)
    record.initial
  match (record.fields.drop items.length).findIdx? Field.required with
  | some i => .error (.invalidLength (items.length + i) record.name record.fields.length)
  | none => .ok draft

/-- Reads a record. -/
def read (record : Record α) (v : Value) : Except SchemaFault α :=
  match v, Schema.entries? v with
  | .array items, _ => record.readItems items
  | _, some entries => record.readEntries entries
  | _, none => .error (Schema.mismatch ("struct " ++ record.name) v)

end Record

end FunctionForge
