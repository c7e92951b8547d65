import FunctionForge.Diagnostic

/-!
# Reports

A report is written as JSON, or it says what is shown line by line. How a line looks, and whether it
is shown at all, is up to where it goes.
-/

namespace FunctionForge

/-! ### JSON -/

namespace Report

/-- A value as JSON. -/
inductive Json where
  | null
  | number (n : Nat)
  | string (s : String)
  | array (items : List Json)
  | object (entries : List (String × Json))

namespace Json

instance : Inhabited Json := ⟨null⟩

def hexDigit (n : Nat) : Char := Char.ofNat (if n < 10 then '0'.toNat + n else 'a'.toNat + n - 10)

def escaped (c : Char) : List Char :=
  if c = '"' then ['\\', '"']
  else if c = '\\' then ['\\', '\\']
  else if c = '\x08' then ['\\', 'b']
  else if c = '\x0c' then ['\\', 'f']
  else if c = '\n' then ['\\', 'n']
  else if c = '\r' then ['\\', 'r']
  else if c = '\t' then ['\\', 't']
  else if c < ' ' then ['\\', 'u', '0', '0', hexDigit (c.toNat / 16), hexDigit (c.toNat % 16)]
  else [c]

def quoted (s : String) : String := String.ofList ('"' :: s.toList.flatMap escaped ++ ['"'])

def lineStart (level : Nat) : String := "\n" ++ String.ofList (List.replicate (2 * level) ' ')

/-- Texts between brackets, each on a line of its own a level deeper. -/
def bracketed (opening closing : String) (level : Nat) (texts : List String) : String :=
  if texts.isEmpty then opening ++ closing
  else opening ++ lineStart (level + 1) ++
    String.intercalate ("," ++ lineStart (level + 1)) texts ++ lineStart level ++ closing

mutual

def text (level : Nat) : Json → String
  | null => "null"
  | number n => toString n
  | string s => quoted s
  | array items => bracketed "[" "]" level (itemTexts (level + 1) items)
  | object entries => bracketed "\x7b" "\x7d" level (entryTexts (level + 1) entries)

def itemTexts (level : Nat) : List Json → List String
  | [] => []
  | item :: rest => item.text level :: itemTexts level rest

def entryTexts (level : Nat) : List (String × Json) → List String
  | [] => []
  | (key, value) :: rest => (quoted key ++ ": " ++ value.text level) :: entryTexts level rest

end

def optional : Option String → Json
  | some s => string s
  | none => null

def strings (items : List String) : Json := array (items.map string)

end Json

/-! ### Lines -/

/-- A line of a report. A preformatted text may have several. -/
inductive Line where
  | heading (name : String)
  | keyValue (key value : String)
  | listItem (text : String)
  | addedItem (text : String)
  | removedItem (text : String)
  | error (message : String)
  | warning (message : String)
  | divider (label : String)
  | preformatted (text : String)
  | newline
  deriving DecidableEq, Repr

namespace Line

def isProblem : Line → Bool
  | error _ | warning _ => true
  | _ => false

def text : Line → String
  | heading name => name ++ ":"
  | keyValue key value => key ++ ": " ++ value
  | listItem text | removedItem text => "  - " ++ text
  | addedItem text => "  + " ++ text
  | error message => "error: " ++ message
  | warning message => "warning: " ++ message
  | divider label => "── " ++ label ++ " ──"
  | preformatted text => text
  | newline => ""

end Line

/-- The text of lines, each with its end. -/
def textOf (lines : List Line) : String := String.join (lines.map fun line => line.text ++ "\n")

/-- What is printed. -/
structure Printed where
  output : String
  errors : String
  deriving DecidableEq, Repr

/-- Prints lines: problems as errors, everything else as output unless it is to be quiet. -/
def print (quiet : Bool) (lines : List Line) : Printed where
  output := if quiet then "" else textOf (lines.filter fun line => !line.isProblem)
  errors := textOf (lines.filter Line.isProblem)

end Report

/-! ### Diagnostics -/

/-- The text of a diagnostic in a report, with its symbol on a line of its own. -/
def Diagnostic.reportText (d : Diagnostic) : String :=
  match d.symbol with
  | some symbol => d.message ++ "\n  --> " ++ symbol
  | none => d.message

def Diagnostic.line (d : Diagnostic) : Report.Line :=
  match d.severity with
  | .error => .error d.reportText
  | .warning => .warning d.reportText
  | .info => .preformatted ("info: " ++ d.reportText)

def Diagnostic.json (d : Diagnostic) : Report.Json :=
  .object [("severity", .string d.severity.name), ("message", .string d.message),
    ("symbol", .optional d.symbol)]

def DiagnosticLog.lines (log : DiagnosticLog) : List Report.Line := log.map Diagnostic.line

namespace Report

/-- The ending of a noun that is counted. -/
def plural (count : Nat) : String := if count = 1 then "" else "s"

def counted (count : Nat) (noun : String) : String :=
  toString count ++ " " ++ noun ++ plural count

end Report

end FunctionForge
