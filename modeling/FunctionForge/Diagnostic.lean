/-!
# Diagnostics

Problems that do not end a pass are reported as diagnostics, each about a symbol if it is known.
-/

namespace FunctionForge

/-- How serious a diagnostic is. -/
inductive Severity where
  | error
  | warning
  | info
  deriving DecidableEq, Repr

def Severity.name : Severity → String
  | error => "error"
  | warning => "warning"
  | info => "info"

/-- A message about a symbol. -/
structure Diagnostic where
  severity : Severity
  message : String
  symbol : Option String
  deriving DecidableEq, Repr

namespace Diagnostic

def error (message symbol : String) : Diagnostic := ⟨.error, message, some symbol⟩

def warning (message symbol : String) : Diagnostic := ⟨.warning, message, some symbol⟩

def isError (d : Diagnostic) : Bool := d.severity = .error

def isWarning (d : Diagnostic) : Bool := d.severity = .warning

def text (d : Diagnostic) : String :=
  d.severity.name ++ ": " ++ d.message ++
    match d.symbol with
    | some symbol => " (at " ++ symbol ++ ")"
    | none => ""

end Diagnostic

/-- Diagnostics in the order in which they were reported. -/
abbrev DiagnosticLog := List Diagnostic

namespace DiagnosticLog

def errors (log : DiagnosticLog) : List Diagnostic := log.filter Diagnostic.isError

def warnings (log : DiagnosticLog) : List Diagnostic := log.filter Diagnostic.isWarning

def hasErrors (log : DiagnosticLog) : Bool := log.any Diagnostic.isError

def hasWarnings (log : DiagnosticLog) : Bool := log.any Diagnostic.isWarning

end DiagnosticLog

end FunctionForge
