import FunctionForge.Command.Run

/-!
# Reports and exit codes

What a report shows and the exit code of its command are told from the same fields, but not by the
same scan. They agree: an error line is shown if and only if the command fails. The entries of a
report stand under headings, and each list has all of its entries under its own heading, in order.
-/

namespace FunctionForge

namespace Report

/-! ### Problems -/

def Line.isError : Line → Bool
  | .error _ => true
  | _ => false

theorem exists_error_mem_iff {lines : List Line} :
    (∃ message, .error message ∈ lines) ↔ (lines.filter Line.isProblem).any Line.isError := by
  simp only [List.any_eq_true, List.mem_filter]
  constructor
  · rintro ⟨message, hmem⟩
    exact ⟨.error message, ⟨hmem, rfl⟩, rfl⟩
  · rintro ⟨line, ⟨hmem, -⟩, herror⟩
    cases line with
    | error message => exact ⟨message, hmem⟩
    | _ => cases herror

end Report

/-- The line of a diagnostic that is a problem. -/
def Diagnostic.problem? (d : Diagnostic) : Option Report.Line :=
  match d.severity with
  | .error => some (.error d.reportText)
  | .warning => some (.warning d.reportText)
  | .info => none

namespace DiagnosticLog

/-- The problem lines of a log, with an error that ended the pass behind them. -/
def problems (log : DiagnosticLog) (fatal : Option String) : List Report.Line :=
  log.filterMap Diagnostic.problem? ++ fatal.toList.map .error

theorem problems_lines (log : DiagnosticLog) :
    log.lines.filter Report.Line.isProblem = log.filterMap Diagnostic.problem? := by
  induction log with
  | nil => rfl
  | cons d rest ih =>
    rw [lines, List.map_cons, Diagnostic.line, List.filterMap_cons, Diagnostic.problem?]
    cases d.severity with
    | error => exact congrArg (_ :: ·) ih
    | warning => exact congrArg (_ :: ·) ih
    | info => exact ih

theorem any_isError_problems (log : DiagnosticLog) (fatal : Option String) :
    (log.problems fatal).any Report.Line.isError = (fatal.isSome || log.hasErrors) := by
  have hlog : (log.filterMap Diagnostic.problem?).any Report.Line.isError = log.hasErrors := by
    induction log with
    | nil => rfl
    | cons d rest ih =>
      rw [List.filterMap_cons, hasErrors, List.any_cons, ← hasErrors, ← ih, Diagnostic.problem?,
        Diagnostic.isError]
      cases d.severity <;> rfl
  rw [problems, List.any_append, hlog, Bool.or_comm]
  cases fatal <;> rfl

end DiagnosticLog

/-! ### Entries -/

namespace Report

def Line.isEntry : Line → Bool
  | .listItem _ | .addedItem _ | .removedItem _ => true
  | _ => false

def Line.isDivider : Line → Bool
  | .divider _ => true
  | _ => false

/-- The entries among lines, each with the heading that it stands under. -/
def entries (under : Option String) : List Line → List (Option String × Line)
  | [] => []
  | .heading name :: rest => entries (some name) rest
  | line :: rest => if line.isEntry then (under, line) :: entries under rest else entries under rest

def entriesUnder (name : String) (list : List Line) : List (Option String × Line) :=
  list.map fun line => (some name, line)

/-- The heading that lines behind a headed list stand under. An empty list has no heading. -/
def headingBehind (under : Option String) (name : String) (list : List Line) : Option String :=
  if list.isEmpty then under else some name

section Entries

variable {under : Option String} {list rest : List Line}

theorem entries_entry {line : Line} (h : line.isEntry) :
    entries under (line :: rest) = (under, line) :: entries under rest := by
  cases line with
  | listItem | addedItem | removedItem => rfl
  | _ => cases h

theorem entries_append_of_all (hlist : ∀ line ∈ list, line.isEntry) :
    entries under (list ++ rest) = list.map (fun line => (under, line)) ++ entries under rest := by
  induction list with
  | nil => rfl
  | cons line list ih =>
    obtain ⟨hline, hlist⟩ := List.forall_mem_cons.1 hlist
    rw [List.cons_append, entries_entry hline, ih hlist, List.map_cons, List.cons_append]

theorem entries_headed (name : String) (hlist : ∀ line ∈ list, line.isEntry) :
    entries under (Generation.headed name list ++ rest) =
      entriesUnder name list ++ entries (headingBehind under name list) rest := by
  cases list with
  | nil => rfl
  | cons line list => exact entries_append_of_all hlist

theorem entries_headed_only (name : String) (hlist : ∀ line ∈ list, line.isEntry) :
    entries under (Generation.headed name list) = entriesUnder name list := by
  have h : entries under (Generation.headed name list ++ []) =
      entriesUnder name list ++ entries (headingBehind under name list) [] :=
    entries_headed name hlist
  rw [List.append_nil] at h
  exact h.trans (List.append_nil _)

theorem entries_spaced_headed (name : String) (hlist : ∀ line ∈ list, line.isEntry) :
    entries under (Generation.spaced (Generation.headed name list) ++ rest) =
      entriesUnder name list ++ entries (headingBehind under name list) rest := by
  cases list with
  | nil => rfl
  | cons line list =>
    have hspaced : Generation.spaced (Generation.headed name (line :: list)) =
        Generation.headed name (line :: list) ++ [.newline] := rfl
    rw [hspaced, List.append_assoc, entries_headed name hlist]
    rfl

theorem entries_lines_append (log : DiagnosticLog) :
    entries under (log.lines ++ rest) = entries under rest := by
  induction log with
  | nil => rfl
  | cons d log ih =>
    rw [DiagnosticLog.lines, List.map_cons, List.cons_append, Diagnostic.line]
    cases d.severity <;> exact ih

end Entries

end Report

open Report

/-! ### Checks -/

namespace Check

def validLine (check : Check) : Line := .preformatted ("✓ " ++ check.config.text ++ " is valid")

theorem validLine_not_mem_lines (check : Check) (log : DiagnosticLog) :
    check.validLine ∉ log.lines := by
  intro hmem
  obtain ⟨d, -, hline⟩ := List.mem_map.1 hmem
  rw [Diagnostic.line, validLine] at hline
  split at hline
  · cases hline
  · cases hline
  · -- The line of an information starts with another character.
    have htext := congrArg String.toList (Line.preformatted.inj hline)
    simp at htext

theorem filter_validLines (check : Check) : check.validLines.filter Line.isProblem = [] := by
  rw [validLines]
  cases check.outcome.file <;> rfl

/-- The valid lines come behind the problems, and there are none if the check is not valid. -/
theorem problems_lines (check : Check) :
    check.lines.filter Line.isProblem = check.diagnostics.problems check.fatal := by
  have hfatal : (check.fatal.map Line.error).toList.filter Line.isProblem =
      check.fatal.toList.map .error := by
    cases check.fatal <;> rfl
  have hvalid : (if check.isValid then check.validLines else []).filter Line.isProblem = [] := by
    split
    · exact check.filter_validLines
    · rfl
  have hnewline (empty : Bool) :
      (if empty then [] else [Line.newline]).filter Line.isProblem = [] := by
    cases empty <;> rfl
  rw [lines, List.filter_append, List.filter_append, List.filter_append, hnewline, hvalid, hfatal,
    DiagnosticLog.problems_lines, List.append_nil, List.append_nil, DiagnosticLog.problems]

theorem isValid_eq (check : Check) :
    check.isValid = !(check.fatal.isSome || check.diagnostics.hasErrors) := by
  rw [isValid]
  cases check.fatal <;> rfl

theorem exists_error_iff (check : Check) :
    (∃ message, .error message ∈ check.lines) ↔ check.isValid = false := by
  rw [exists_error_mem_iff, problems_lines, DiagnosticLog.any_isError_problems, isValid_eq,
    Bool.not_eq_false']

theorem validLine_mem_iff (check : Check) :
    check.validLine ∈ check.lines ↔ check.isValid = true := by
  have hvalid : check.validLine ∈ check.validLines := List.mem_cons_self
  have hfatal : check.validLine ∉ (check.fatal.map Line.error).toList := by
    cases check.fatal <;> simp [validLine]
  have hnewline (empty : Bool) : check.validLine ∉ (if empty then [] else [Line.newline]) := by
    cases empty <;> simp [validLine]
  rw [lines, List.mem_append, List.mem_append, List.mem_append]
  constructor
  · rintro (((hmem | hmem) | hmem) | hmem)
    · exact absurd hmem (check.validLine_not_mem_lines check.diagnostics)
    · exact absurd hmem hfatal
    · exact absurd hmem (hnewline _)
    · split at hmem
      · next h => exact h
      · cases hmem
  · intro h
    rw [if_pos h]
    exact .inr hvalid

end Check

/-! ### Generations -/

namespace GenerationEffect

/-- The files that were written. -/
def files : GenerationEffect → List Path
  | .preview _ => []
  | .written _ files _ => files

def removed : GenerationEffect → List Path
  | .preview _ => []
  | .written _ _ removed => removed

/-- The labels of what is shown for a look: the files and a summary. -/
def labels : GenerationEffect → List String
  | .preview files => files.map (fun file => file.1.text) ++ ["Summary"]
  | .written _ _ _ => []

end GenerationEffect

namespace Generation

theorem isEntry_addedItem (paths : List Path) :
    ∀ line ∈ paths.map fun path => Line.addedItem path.text, line.isEntry :=
  List.forall_mem_map.2 fun _ _ => rfl

theorem isEntry_removedItem (paths : List Path) :
    ∀ line ∈ paths.map fun path => Line.removedItem path.text, line.isEntry :=
  List.forall_mem_map.2 fun _ _ => rfl

theorem isEntry_listItem (names : List String) : ∀ line ∈ names.map Line.listItem, line.isEntry :=
  List.forall_mem_map.2 fun _ _ => rfl

/-- A class of lines with no headings, entries or plain texts in it. -/
structure Marks (p : Line → Bool) : Prop where
  heading (name : String) : p (.heading name) = false
  entry (line : Line) (h : line.isEntry) : p line = false
  keyValue (key value : String) : p (.keyValue key value) = false
  preformatted (text : String) : p (.preformatted text) = false
  newline : p .newline = false

theorem marks_isProblem : Marks Line.isProblem where
  heading _ := rfl
  entry line h := by
    cases line with
    | listItem | addedItem | removedItem => rfl
    | _ => cases h
  keyValue _ _ := rfl
  preformatted _ := rfl
  newline := rfl

theorem marks_isDivider : Marks Line.isDivider where
  heading _ := rfl
  entry line h := by
    cases line with
    | listItem | addedItem | removedItem => rfl
    | _ => cases h
  keyValue _ _ := rfl
  preformatted _ := rfl
  newline := rfl

namespace Marks

variable {p : Line → Bool} (h : Marks p) {list : List Line}

include h

theorem filter_headed (name : String) (hlist : ∀ line ∈ list, line.isEntry) :
    (headed name list).filter p = [] := by
  have hnone : list.filter p = [] :=
    List.filter_eq_nil_iff.2 fun line hmem => Bool.eq_false_iff.1 (h.entry line (hlist line hmem))
  cases list with
  | nil => rfl
  | cons line list =>
    exact (List.filter_cons_of_neg (Bool.eq_false_iff.1 (h.heading name))).trans hnone

theorem filter_spaced (hlist : list.filter p = []) : (spaced list).filter p = [] := by
  cases list with
  | nil => rfl
  | cons line list =>
    have hspaced : spaced (line :: list) = line :: list ++ [.newline] := rfl
    rw [hspaced, List.filter_append, hlist,
      List.filter_cons_of_neg (Bool.eq_false_iff.1 h.newline)]
    rfl

theorem filter_removedLines (removed : List Path) : (removedLines removed).filter p = [] :=
  h.filter_headed "Removed" (isEntry_removedItem removed)

theorem filter_summaryLines (generation : Generation) :
    generation.summaryLines.filter p = [] := by
  rw [summaryLines]
  split
  · exact List.filter_cons_of_neg (Bool.eq_false_iff.1 (h.preformatted _))
  · rw [List.filter_append, h.filter_headed _ (isEntry_listItem _), List.append_nil,
      List.filter_cons_of_neg (Bool.eq_false_iff.1 (h.preformatted _)),
      h.filter_headed _ (isEntry_listItem _)]

theorem filter_effectLines (effect : GenerationEffect) :
    (effectLines effect).filter p = (effect.labels.map .divider).filter p := by
  cases effect with
  | preview files =>
    have hfile (file : Path × String) :
        [Line.divider file.1.text, .preformatted file.2].filter p =
          [Line.divider file.1.text].filter p := by
      rw [← List.singleton_append, List.filter_append,
        List.filter_cons_of_neg (Bool.eq_false_iff.1 (h.preformatted _)), List.filter_nil,
        List.append_nil]
    rw [effectLines, GenerationEffect.labels, List.map_append, List.filter_append,
      List.filter_append, List.filter_flatMap, List.map_map, List.map_eq_flatMap,
      List.filter_flatMap]
    exact congrArg (fun read => files.flatMap read ++ _) (funext hfile)
  | written directory files removed =>
    have hfiles : (headed "Generated" (files.map fun path => .addedItem path.text)).filter p = [] :=
      h.filter_headed "Generated" (isEntry_addedItem files)
    rw [effectLines, List.filter_append, List.filter_append, h.filter_spaced hfiles,
      h.filter_spaced (h.filter_removedLines removed),
      List.filter_cons_of_neg (Bool.eq_false_iff.1 (h.keyValue _ _))]
    rfl

theorem filter_fatalLines (fatal : String) (effect : GenerationEffect) :
    (fatalLines fatal effect).filter p = [Line.error fatal].filter p := by
  cases effect with
  | preview files => rfl
  | written directory files removed =>
    rw [fatalLines, ← List.singleton_append, List.filter_append, h.filter_removedLines,
      List.append_nil]

end Marks

theorem problems_lines (generation : Generation) :
    generation.lines.filter Line.isProblem = generation.diagnostics.problems generation.fatal := by
  rw [lines, List.filter_append, DiagnosticLog.problems_lines, DiagnosticLog.problems]
  cases generation.fatal with
  | some fatal => exact congrArg _ (marks_isProblem.filter_fatalLines fatal generation.effect)
  | none =>
    have hlabels : (generation.effect.labels.map Line.divider).filter Line.isProblem = [] :=
      List.filter_eq_nil_iff.2 (List.forall_mem_map.2 fun _ _ => Bool.false_ne_true)
    simp only [List.filter_append, marks_isProblem.filter_effectLines, hlabels,
      marks_isProblem.filter_summaryLines]
    rfl

theorem exists_error_iff (generation : Generation) :
    (∃ message, .error message ∈ generation.lines) ↔ generation.hasErrors = true := by
  rw [exists_error_mem_iff, problems_lines, DiagnosticLog.any_isError_problems, hasErrors]

theorem dividers_lines (generation : Generation) :
    generation.lines.filter Line.isDivider =
      (if generation.fatal.isSome then [] else generation.effect.labels).map .divider := by
  have hlog : generation.diagnostics.lines.filter Line.isDivider = [] := by
    refine List.filter_eq_nil_iff.2 fun line hmem => ?_
    obtain ⟨d, -, rfl⟩ := List.mem_map.1 hmem
    rw [Diagnostic.line]
    cases d.severity <;> exact Bool.false_ne_true
  rw [lines, List.filter_append, hlog, List.nil_append]
  cases generation.fatal with
  | some fatal => exact marks_isDivider.filter_fatalLines fatal generation.effect
  | none =>
    simp only [List.filter_append, marks_isDivider.filter_effectLines,
      marks_isDivider.filter_summaryLines, List.append_nil]
    exact List.filter_eq_self.2 (List.forall_mem_map.2 fun _ _ => rfl)

/-! ### Lists of a generation -/

variable {under : Option String}

theorem entries_fatalLines (fatal : String) (effect : GenerationEffect) :
    entries under (fatalLines fatal effect) =
      entriesUnder "Removed" (effect.removed.map fun path => .removedItem path.text) := by
  cases effect with
  | preview files => rfl
  | written directory files removed =>
    exact entries_headed_only "Removed" (isEntry_removedItem removed)

theorem entries_summaryLines (generation : Generation) :
    entries under generation.summaryLines =
      if generation.outcome.file.isNone then []
      else entriesUnder "Skipped" (generation.outcome.skipped.map .listItem) ++
        entriesUnder "Deferred (unresolved types)" (generation.outcome.deferred.map .listItem) := by
  rw [summaryLines]
  cases generation.outcome.file with
  | none => rfl
  | some file =>
    refine (entries_headed "Skipped" (isEntry_listItem _)).trans (congrArg _ ?_)
    exact entries_headed_only _ (isEntry_listItem _)

theorem entries_effectLines_append (under : Option String) (effect : GenerationEffect)
    (rest : List Line) :
    ∃ under', entries under (effectLines effect ++ rest) =
      entriesUnder "Generated" (effect.files.map fun path => .addedItem path.text) ++
        (entriesUnder "Removed" (effect.removed.map fun path => .removedItem path.text) ++
          entries under' rest) := by
  cases effect with
  | preview files =>
    refine ⟨under, ?_⟩
    rw [effectLines, List.append_assoc]
    induction files with
    | nil => rfl
    | cons file files ih => exact ih
  | written directory files removed =>
    rw [effectLines, List.append_assoc, List.append_assoc, entries_spaced_headed "Generated"
      (isEntry_addedItem files), removedLines, entries_spaced_headed "Removed"
      (isEntry_removedItem removed)]
    exact ⟨_, rfl⟩

/-- The entries of a report, list by list. -/
theorem entries_lines (generation : Generation) :
    entries none generation.lines =
      entriesUnder "Generated"
        ((if generation.fatal.isSome then [] else generation.effect.files).map fun path =>
          .addedItem path.text) ++
      (entriesUnder "Removed" (generation.effect.removed.map fun path => .removedItem path.text) ++
      if generation.fatal.isSome || generation.outcome.file.isNone then []
      else entriesUnder "Skipped" (generation.outcome.skipped.map .listItem) ++
        entriesUnder "Deferred (unresolved types)"
          (generation.outcome.deferred.map .listItem)) := by
  rw [lines, entries_lines_append]
  cases generation.fatal with
  | some fatal =>
    refine (entries_fatalLines fatal generation.effect).trans ?_
    exact (List.append_nil _).symm
  | none =>
    obtain ⟨under, heffect⟩ :=
      entries_effectLines_append none generation.effect generation.summaryLines
    exact heffect.trans (by rw [entries_summaryLines]; rfl)

end Generation

/-- A report shows an error if and only if its command ends with exit code one. Its problems are
those of the diagnostics, in order, and then the error that ended the pass. A check is said to be
valid if no error is shown. A generation lists what was removed in any case, what was generated if
no error ended the pass, and what was skipped and deferred if there is a file besides, each list
whole, in order and under its heading. -/
theorem Command.exit_code_is_shown :
    (∀ (check : Check) (quiet : Bool) (format : Command.Format),
      let shown := check.lines
      ((∃ message, .error message ∈ shown) ↔ check.isValid = false) ∧
      (Command.checkAnswer quiet format check).exit = (if check.isValid then 0 else 1) ∧
      shown.filter Line.isProblem =
        check.diagnostics.filterMap Diagnostic.problem? ++ check.fatal.toList.map .error ∧
      (.preformatted ("✓ " ++ check.config.text ++ " is valid") ∈ shown ↔
        ∀ message, .error message ∉ shown)) ∧
    ∀ (generation : Generation) (quiet : Bool),
      let shown := generation.lines
      let failed := generation.fatal.isSome
      ((∃ message, .error message ∈ shown) ↔ generation.hasErrors = true) ∧
      (Command.generateAnswer quiet generation).exit = (if generation.hasErrors then 1 else 0) ∧
      shown.filter Line.isProblem =
        generation.diagnostics.filterMap Diagnostic.problem? ++
          generation.fatal.toList.map .error ∧
      entries none shown =
        entriesUnder "Generated" ((if failed then [] else generation.effect.files).map
          fun path => .addedItem path.text) ++
        (entriesUnder "Removed" (generation.effect.removed.map
          fun path => .removedItem path.text) ++
        if failed || generation.outcome.file.isNone then []
        else entriesUnder "Skipped" (generation.outcome.skipped.map .listItem) ++
          entriesUnder "Deferred (unresolved types)"
            (generation.outcome.deferred.map .listItem)) ∧
      shown.filter Line.isDivider =
        (if failed then [] else generation.effect.labels).map .divider := by
  refine ⟨fun check quiet format => ⟨check.exists_error_iff, ?_, check.problems_lines, ?_⟩,
    fun generation quiet => ⟨generation.exists_error_iff, rfl, generation.problems_lines,
      generation.entries_lines, generation.dividers_lines⟩⟩
  · change Command.exitCode (!check.isValid) = _
    cases check.isValid <;> rfl
  · refine check.validLine_mem_iff.trans ?_
    rw [← not_exists, check.exists_error_iff, Bool.not_eq_false]

end FunctionForge
