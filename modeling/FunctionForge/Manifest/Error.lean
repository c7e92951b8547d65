import FunctionForge.Manifest.Record
import FunctionForge.Path

/-!
# Errors of manifests

An error has a message, and most have a code, a label for each place they point at, and a hint. A
place that was not found has no label.

The places are found by searching the text of the manifest for names and values in quotes, so they
are only as good as the text is regular: a name counts where `name = ` and the quoted name start a
line. Offsets and lengths are in bytes.
-/

namespace FunctionForge

/-- A stretch of a text. -/
structure Span where
  offset : Nat
  length : Nat
  deriving DecidableEq, Repr

/-- A place where a pattern stands, and whether only blanks precede it on its line. -/
structure Occurrence where
  offset : Nat
  startsLine : Bool
  deriving DecidableEq, Repr

namespace Span

open Text

/-- Whether only blanks have been read on a line, after one more character. -/
def stillBlank (blank : Bool) (c : Char) : Bool := c = '\n' || (blank && (c = ' ' || c = '\t'))

/-- The places of a pattern from left to right, none inside the one before it. Told are the offset
of the text, whether only blanks precede it on its line, and how many characters belong to the last
place. -/
def occurrencesFrom (pattern : List Char) (offset : Nat) (blank : Bool) (covered : Nat) :
    List Char → List Occurrence
  | [] => []
  | c :: rest =>
    let found := covered = 0 && pattern.isPrefixOf (c :: rest)
    (if found then [⟨offset, blank⟩] else []) ++
      occurrencesFrom pattern (offset + c.utf8Size) (stillBlank blank c)
        (if found then pattern.length - 1 else covered - 1) rest

def occurrences (text : String) (pattern : List Char) : List Occurrence :=
  occurrencesFrom pattern 0 true 0 text.toList

/-- The quotes that a string may stand in. -/
def quotes : List Char := ['"', '\'']

def quoted (quote : Char) (value : String) : List Char := quote :: value.toList ++ [quote]

/-- What precedes a quoted name. -/
def nameKey : List Char := "name = ".toList

/-- The places of a name in one kind of quotes, where it starts a line. -/
def namesIn (text name : String) (quote : Char) : List Span :=
  ((occurrences text (nameKey ++ quoted quote name)).filter Occurrence.startsLine).map fun place =>
    ⟨place.offset + byteLength nameKey + quote.utf8Size, size name⟩

/-- The places at which a name is given, from left to right. -/
def names (text name : String) : List Span :=
  (namesIn text name '"').merge (namesIn text name '\'') fun left right =>
    left.offset ≤ right.offset

/-- The first place at which a name is given. -/
def name? (text name : String) : Option Span := (names text name).head?

/-- The first place of a quoted value; double quotes are looked for first. -/
def value? (text value : String) : Option Span :=
  quotes.findSome? fun quote =>
    (occurrences text (quoted quote value)).head?.map fun place =>
      ⟨place.offset + quote.utf8Size, size value⟩

/-- The place of a byte of a quoted type. At the end of the type its last byte is meant. -/
def type? (text type : String) (offset : Nat) : Option Span :=
  (value? text type).map fun place => ⟨place.offset + min offset (size type - 1), 1⟩

end Span

/-- A text for a place. -/
structure Label where
  span : Span
  text : String
  deriving DecidableEq, Repr

/-- Why a manifest is refused. -/
inductive ManifestError where
  | unreadable (path : Path) (cause : String)
  | malformed (fault : SchemaFault)
  | invalid (message : String) (span : Option Span)
  | keyword (name context : String) (span : Option Span)
  | identifier (name context reason : String) (span : Option Span)
  | duplicate (name context : String) (first second : Option Span)
  | badType (text reason : String) (span : Option Span)
  | unknownKind (name : String) (span : Option Span)
  deriving DecidableEq, Repr

namespace ManifestError

def message : ManifestError → String
  | unreadable path _ => "failed to read '" ++ path.text ++ "'"
  | malformed _ => "failed to parse functions.toml"
  | invalid message _ => message
  | keyword name _ _ => "'" ++ name ++ "' is a Kotlin keyword"
  | identifier name context _ _ => "invalid " ++ context ++ " name '" ++ name ++ "'"
  | duplicate name context _ _ => "duplicate " ++ context ++ " '" ++ name ++ "'"
  | badType text _ _ => "invalid type '" ++ text ++ "'"
  | unknownKind name _ => "unknown declaration kind '" ++ name ++ "'"

def code? : ManifestError → Option String
  | unreadable _ _ => none
  | malformed _ => some "funcgen::parse_error"
  | invalid _ _ => some "funcgen::validation_error"
  | keyword _ _ _ => some "funcgen::reserved_keyword"
  | identifier _ _ _ _ => some "funcgen::invalid_identifier"
  | duplicate _ _ _ _ => some "funcgen::duplicate_name"
  | badType _ _ _ => some "funcgen::invalid_type"
  | unknownKind _ _ => some "funcgen::unknown_kind"

def help? : ManifestError → Option String
  | unreadable _ _ => some "pass the path of a functions.toml with --config"
  | keyword name context _ =>
    some ("rename the " ++ context ++ " '" ++ name ++ "', e.g. '" ++ name ++ "Value'")
  | identifier _ _ reason _ =>
    some (reason ++
      ". Use only letters, numbers, and underscores, starting with a letter or underscore.")
  | badType _ _ _ => some "types look like `String`, `List<out Int?>` or `Map<String, *>?`"
  | unknownKind _ _ =>
    some "valid kinds are: interface, class, enum_class, enum_entry, object, annotation_class"
  | _ => none

/-- The label for a place that was found. -/
def label (text : String) (span : Option Span) : List Label :=
  (span.map fun span => Label.mk span text).toList

def labels : ManifestError → List Label
  | unreadable _ _ | malformed _ => []
  | invalid message span => label message span
  | keyword _ _ span => label "keyword used here" span
  | identifier _ _ _ span => label "invalid identifier" span
  | duplicate _ _ first second =>
    label "first defined here" first ++ label "defined again here" second
  | badType _ reason span => label reason span
  | unknownKind _ span => label "unknown kind" span

def cause? : ManifestError → Option String
  | unreadable _ cause => some cause
  | malformed fault => some fault.message
  | _ => none

end ManifestError

end FunctionForge
