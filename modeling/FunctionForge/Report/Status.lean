import FunctionForge.Pass
import FunctionForge.Report.Basic

/-!
# Checks and generations

What a check has found and what a generation has done, and how each is reported.
-/

namespace FunctionForge

/-! ### Checks -/

open Report (Json)

def Outcome.json (outcome : Outcome) : Json :=
  .object [("file", .optional (outcome.file.map Path.text)),
    ("functions", .number outcome.functions), ("skipped", .strings outcome.skipped),
    ("deferred", .strings outcome.deferred)]

/-- What a check has found. -/
structure Check where
  config : Path
  declarations : Nat
  annotated : Nat
  outcome : Outcome
  diagnostics : DiagnosticLog
  fatal : Option String
  deriving DecidableEq, Repr

namespace Check

def isValid (check : Check) : Bool :=
  check.fatal.isNone && !check.diagnostics.hasErrors

/-- The lines about a manifest without errors. -/
def validLines (check : Check) : List Report.Line :=
  [.preformatted ("✓ " ++ check.config.text ++ " is valid"), .newline,
    .preformatted ("  " ++ Report.counted check.declarations "declaration" ++ ", " ++
      toString check.annotated ++ " annotated with @Function")] ++
  (check.outcome.file.map fun file => Report.Line.preformatted
    ("  " ++ Report.counted check.outcome.functions "function" ++ " would be generated into " ++
      file.text)).toList

def lines (check : Check) : List Report.Line :=
  let problems := check.diagnostics.lines ++ (check.fatal.map Report.Line.error).toList
  problems ++ (if problems.isEmpty then [] else [.newline]) ++
    if check.isValid then check.validLines else []

def json (check : Check) : Json :=
  .object [("config_path", .string check.config.text),
    ("declarations", .number check.declarations), ("annotated", .number check.annotated),
    ("outcome", check.outcome.json),
    ("diagnostics", .array (check.diagnostics.map Diagnostic.json)),
    ("fatal", .optional check.fatal)]

end Check

/-! ### Generations -/

/-- What a generation left behind: texts for a look, or changes on a disk. -/
inductive GenerationEffect where
  | preview (files : List (Path × String))
  | written (directory : Path) (files removed : List Path)
  deriving DecidableEq, Repr

/-- What a generation has done. -/
structure Generation where
  config : Path
  diagnostics : DiagnosticLog
  outcome : Outcome
  fatal : Option String
  effect : GenerationEffect
  deriving DecidableEq, Repr

namespace Generation

def hasErrors (generation : Generation) : Bool :=
  generation.fatal.isSome || generation.diagnostics.hasErrors

/-- A heading with lines below, nothing if there are none. -/
def headed (name : String) (lines : List Report.Line) : List Report.Line :=
  if lines.isEmpty then [] else .heading name :: lines

def removedLines (removed : List Path) : List Report.Line :=
  headed "Removed" (removed.map fun path => .removedItem path.text)

/-- Lines with an empty line below, nothing if there are none. -/
def spaced (lines : List Report.Line) : List Report.Line :=
  if lines.isEmpty then [] else lines ++ [.newline]

/-- The lines about what was left behind. -/
def effectLines : GenerationEffect → List Report.Line
  | .preview files =>
    files.flatMap (fun (path, text) => [.divider path.text, .preformatted text]) ++
      [.divider "Summary"]
  | .written directory files removed =>
    spaced (headed "Generated" (files.map fun path => .addedItem path.text)) ++
      spaced (removedLines removed) ++ [.keyValue "Output" directory.text]

def summaryLines (generation : Generation) : List Report.Line :=
  match generation.outcome.file with
  | none =>
    [.preformatted
      ("No @Function declarations in " ++ generation.config.text ++ "; nothing generated")]
  | some _ =>
    .preformatted (Report.counted generation.outcome.functions "function" ++ " generated") ::
      headed "Skipped" (generation.outcome.skipped.map .listItem) ++
      headed "Deferred (unresolved types)" (generation.outcome.deferred.map .listItem)

/-- The lines about an error that ended the pass. -/
def fatalLines (fatal : String) : GenerationEffect → List Report.Line
  | .preview _ => [.error fatal]
  | .written _ _ removed => .error fatal :: removedLines removed

def lines (generation : Generation) : List Report.Line :=
  generation.diagnostics.lines ++
    match generation.fatal with
    | some fatal => fatalLines fatal generation.effect
    | none => effectLines generation.effect ++ generation.summaryLines

end Generation

end FunctionForge
