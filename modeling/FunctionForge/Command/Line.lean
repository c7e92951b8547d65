import FunctionForge.Path
import FunctionForge.Manifest.Basic

/-!
# Command lines

What a command line may ask for, and the ways in which it may ask for nothing that can be done.
-/

namespace FunctionForge

namespace Command

/-- Splits a text at its first equals sign. -/
def splitAtEquals : List Char → Option (List Char × List Char)
  | [] => none
  | '=' :: rest => some ([], rest)
  | c :: rest => (splitAtEquals rest).map fun (key, value) => (c :: key, value)

/-- The key ends at the first equals sign. -/
theorem splitAtEquals_eq_some_iff {text key value : List Char} :
    splitAtEquals text = some (key, value) ↔ text = key ++ '=' :: value ∧ '=' ∉ key := by
  induction text generalizing key with
  | nil => simp [splitAtEquals]
  | cons c rest ih =>
    by_cases hc : c = '='
    · subst hc
      cases key <;> simp only [splitAtEquals, List.cons_append, List.mem_cons] <;> grind
    · cases key with
      | nil => simp [splitAtEquals, hc]
      | cons k key =>
        simp only [splitAtEquals, Option.map_eq_some_iff, Prod.exists, Prod.mk.injEq,
          List.cons_append, List.cons.injEq, List.mem_cons]
        grind

/-- Why a text is no key with a value. -/
inductive KeyValueFault where
  | noEquals
  | emptyKey
  deriving DecidableEq, Repr

def KeyValueFault.message (text : String) : KeyValueFault → String
  | noEquals => "invalid option '" ++ text ++ "': expected key=value"
  | emptyKey => "invalid option '" ++ text ++ "': empty key"

def keyValue (text : String) : Except KeyValueFault (String × String) :=
  match splitAtEquals text.toList with
  | none => .error .noEquals
  | some ([], _) => .error .emptyKey
  | some (key, value) => .ok (String.ofList key, String.ofList value)

/-- How a report is written. -/
inductive Format where
  | text
  | json
  deriving DecidableEq, Repr

def Format.ofName? : String → Option Format
  | "text" => some text
  | "json" => some json
  | _ => none

/-- A shell with completions. -/
inductive Shell where
  | bash
  | elvish
  | fish
  | powershell
  | zsh
  deriving DecidableEq, Repr

def Shell.ofName? : String → Option Shell
  | "bash" => some bash
  | "elvish" => some elvish
  | "fish" => some fish
  | "powershell" => some powershell
  | "zsh" => some zsh
  | _ => none

/-- What is to be done. -/
inductive Task where
  | generate (config output : Path) (args : List (String × String)) (dryRun : Bool)
  | check (config : Path) (args : List (String × String)) (format : Format)
  | completions (shell : Shell)
  deriving DecidableEq, Repr

/-- A command line that was understood. -/
structure Line where
  verbose : Nat
  quiet : Bool
  task : Task
  deriving DecidableEq, Repr

/-- Where the generated files go when nothing else is said. -/
def standardOutput : Path := ⟨"build/generated"⟩

/-- The manifest that is read when nothing else is said. -/
def standardConfig : Path := ⟨Manifest.standardFile⟩

/-- Why nothing is to be done. -/
inductive Stop where
  | help
  | version
  | missingEverything
  | missingSubcommand
  | invalidSubcommand
  | unknownArgument
  | tooManyValues
  | invalidValue
  | valueValidation
  | argumentConflict
  | missingRequiredArgument
  deriving DecidableEq, Repr

namespace Stop

def isAnswer : Stop → Bool
  | help | version => true
  | _ => false

def exitCode (stop : Stop) : Nat := if stop.isAnswer then 0 else 2

end Stop

/-- How much is logged. -/
inductive LogLevel where
  | off
  | info
  | debug
  | trace
  deriving DecidableEq, Repr

namespace LogLevel

def name : LogLevel → String
  | off => "off"
  | info => "info"
  | debug => "debug"
  | trace => "trace"

/-- The level that is asked for. Being quiet wins. -/
def ofFlags (verbose : Nat) (quiet : Bool) : LogLevel :=
  if quiet then off
  else match verbose with
    | 0 => off
    | 1 => info
    | 2 => debug
    | _ => trace

end LogLevel

end Command

end FunctionForge
