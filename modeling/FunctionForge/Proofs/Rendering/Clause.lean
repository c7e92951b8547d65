import FunctionForge.Rendering

/-!
# Clauses of arguments

What an argument list is written as and what is reported about it, by recursion on the arguments
and with no stack. Every pending step stands for a text and for reports of its own, so working off
a stack writes the texts of its steps one after the other. A list alone on the stack is the case
that rendering starts from.
-/

namespace FunctionForge.Rendering

/-! ### Arguments by recursion -/

/-- Slots in angle brackets, nothing if there are none. -/
def enclosed (slots : List String) : String :=
  if slots = [] then "" else "<" ++ ", ".intercalate slots ++ ">"

def mark (nullable : Bool) : String := if nullable then "?" else ""

mutual

/-- The text of an argument. One that does not resolve leaves nothing behind, neither its projection
nor its arguments. -/
def slot (resolver : Resolver) (suppress : Bool) : TypeArg → String
  | .star => "*"
  | .projected projection (.mk name nullable arguments) =>
    if suppress then "*"
    else match resolver name with
      | some qualified =>
        projectionWord projection ++ qualified ++ enclosed (slots resolver suppress arguments) ++
          mark nullable
      | none => ""

def slots (resolver : Resolver) (suppress : Bool) : List TypeArg → List String
  | [] => []
  | argument :: rest => slot resolver suppress argument :: slots resolver suppress rest

end

mutual

/-- What is reported about an argument: one error if it does not resolve, and else what is reported
about its own arguments. -/
def slotReports (resolver : Resolver) (suppress : Bool) (symbol : String) :
    TypeArg → DiagnosticLog
  | .star => []
  | .projected _ (.mk name _ arguments) =>
    if suppress then []
    else match resolver name with
      | some _ => clauseReports resolver suppress symbol arguments
      | none => [invalidArgument name symbol]

def clauseReports (resolver : Resolver) (suppress : Bool) (symbol : String) :
    List TypeArg → DiagnosticLog
  | [] => []
  | argument :: rest =>
    slotReports resolver suppress symbol argument ++ clauseReports resolver suppress symbol rest

end

/-- The text of an argument list. -/
def clause (resolver : Resolver) (suppress : Bool) (list : List TypeArg) : String :=
  enclosed (slots resolver suppress list)

variable (resolver : Resolver) (suppress : Bool) (symbol : String)

theorem slots_eq_map (list : List TypeArg) :
    slots resolver suppress list = list.map (slot resolver suppress) := by
  induction list with
  | nil => rfl
  | cons argument rest ih => rw [slots, ih, List.map_cons]

theorem clauseReports_eq_flatMap (list : List TypeArg) :
    clauseReports resolver suppress symbol list =
      list.flatMap (slotReports resolver suppress symbol) := by
  induction list with
  | nil => rfl
  | cons argument rest ih => rw [clauseReports, ih, List.flatMap_cons]

theorem slot_suppressed (argument : TypeArg) : slot resolver true argument = "*" := by
  cases argument with
  | star => rfl
  | projected projection type =>
    cases type
    rfl

theorem slotReports_suppressed (argument : TypeArg) :
    slotReports resolver true symbol argument = [] := by
  cases argument with
  | star => rfl
  | projected projection type =>
    cases type
    rfl

theorem clause_suppressed (list : List TypeArg) :
    clause resolver true list = enclosed (list.map fun _ => "*") := by
  rw [clause, slots_eq_map]
  exact congrArg enclosed (List.map_congr_left fun argument _ => slot_suppressed resolver argument)

theorem clauseReports_suppressed (list : List TypeArg) :
    clauseReports resolver true symbol list = [] := by
  simp [clauseReports_eq_flatMap, slotReports_suppressed]

/-! ### What a stack stands for -/

def Step.written : Step → String
  | .arguments list => clause resolver suppress list
  | .argument arg => slot resolver suppress arg
  | .text s => s

def Step.reports : Step → DiagnosticLog
  | .arguments list => clauseReports resolver suppress symbol list
  | .argument arg => slotReports resolver suppress symbol arg
  | .text _ => []

/-- The text that pending steps stand for. -/
def pendingText (stack : List Step) : String :=
  String.join (stack.map (Step.written resolver suppress))

/-- The reports that pending steps stand for. -/
def pendingReports (stack : List Step) : DiagnosticLog :=
  stack.flatMap (Step.reports resolver suppress symbol)

@[simp] theorem pendingText_nil : pendingText resolver suppress [] = "" := rfl

@[simp] theorem pendingText_cons (step : Step) (rest : List Step) :
    pendingText resolver suppress (step :: rest) =
      step.written resolver suppress ++ pendingText resolver suppress rest :=
  String.join_cons

@[simp] theorem pendingText_append (left right : List Step) :
    pendingText resolver suppress (left ++ right) =
      pendingText resolver suppress left ++ pendingText resolver suppress right := by
  simp [pendingText]

@[simp] theorem pendingReports_nil : pendingReports resolver suppress symbol [] = [] := rfl

@[simp] theorem pendingReports_cons (step : Step) (rest : List Step) :
    pendingReports resolver suppress symbol (step :: rest) =
      step.reports resolver suppress symbol ++ pendingReports resolver suppress symbol rest :=
  List.flatMap_cons

@[simp] theorem pendingReports_append (left right : List Step) :
    pendingReports resolver suppress symbol (left ++ right) =
      pendingReports resolver suppress symbol left ++
        pendingReports resolver suppress symbol right :=
  List.flatMap_append

/-- The separators come from the steps of a list, and stand between its slots only. -/
theorem pendingText_listSteps (first : TypeArg) (rest : List TypeArg) :
    pendingText resolver suppress (listSteps first rest) =
      ", ".intercalate (slots resolver suppress (first :: rest)) ++ ">" := by
  induction rest generalizing first with
  | nil => simp [listSteps, slots, Step.written]
  | cons second rest ih =>
    rw [listSteps, pendingText_cons, pendingText_cons, ih]
    simp [slots, Step.written, String.append_assoc]

theorem pendingReports_listSteps (first : TypeArg) (rest : List TypeArg) :
    pendingReports resolver suppress symbol (listSteps first rest) =
      clauseReports resolver suppress symbol (first :: rest) := by
  induction rest generalizing first with
  | nil => simp [listSteps, clauseReports, Step.reports]
  | cons second rest ih =>
    rw [listSteps, pendingReports_cons, pendingReports_cons, ih]
    rfl

theorem pendingText_nullableSteps (nullable : Bool) :
    pendingText resolver suppress (nullableSteps nullable) = mark nullable := by
  cases nullable <;> simp [nullableSteps, mark, Step.written]

theorem pendingReports_nullableSteps (nullable : Bool) :
    pendingReports resolver suppress symbol (nullableSteps nullable) = [] := by
  cases nullable <;> simp [nullableSteps, Step.reports]

/-! ### Working off a stack -/

/-- Every step is replaced by steps that stand for the same text and the same reports, or for what
is left of them once something was written or reported. -/
theorem work_eq_pending (stack : List Step) (out : String) (log : DiagnosticLog) :
    work resolver suppress symbol stack out log =
      (out ++ pendingText resolver suppress stack,
        log ++ pendingReports resolver suppress symbol stack) := by
  fun_induction work resolver suppress symbol stack out log with
  | case1 out log => simp
  | case2 out log s rest ih => simp [ih, Step.written, Step.reports, String.append_assoc]
  | case3 out log rest ih =>
    simp [ih, Step.written, Step.reports, clause, slots, enclosed, clauseReports]
  | case4 out log first list rest ih =>
    rw [ih]
    simp [pendingText_listSteps, pendingReports_listSteps, Step.written, Step.reports, clause,
      enclosed, slots, String.append_assoc]
  | case5 out log argument rest hsuppress ih =>
    rw [ih, hsuppress]
    simp [Step.written, Step.reports, slot_suppressed, slotReports_suppressed,
      String.append_assoc]
  | case6 out log rest hsuppress ih =>
    rw [ih]
    simp [Step.written, Step.reports, slot, slotReports, String.append_assoc]
  | case7 out log rest hsuppress projection name nullable arguments qualified hresolves ih =>
    rw [ih]
    simp [pendingText_nullableSteps, pendingReports_nullableSteps, Step.written, Step.reports,
      slot, slotReports, clause, hsuppress, hresolves, String.append_assoc]
  | case8 out log rest hsuppress projection name nullable arguments hresolves ih =>
    rw [ih]
    simp [Step.written, Step.reports, slot, slotReports, hsuppress, hresolves]

theorem arguments_eq (list : List TypeArg) :
    arguments resolver suppress symbol list =
      (clause resolver suppress list, clauseReports resolver suppress symbol list) := by
  rw [arguments, work_eq_pending]
  simp [Step.written, Step.reports]

/-- Rendering arguments gives the recursive clause and its reports, after whatever was written and
reported before. If arguments are suppressed the resolver has no part in it, and there is nothing to
report. -/
theorem arguments_follow_recursion (list : List TypeArg) :
    (∀ out log, work resolver suppress symbol [.arguments list] out log =
      (out ++ clause resolver suppress list,
        log ++ clauseReports resolver suppress symbol list)) ∧
    arguments resolver suppress symbol list =
      (enclosed (list.map (slot resolver suppress)),
        list.flatMap (slotReports resolver suppress symbol)) ∧
    (∀ other, arguments other true symbol list = arguments resolver true symbol list) ∧
    (arguments resolver true symbol list).2 = [] := by
  refine ⟨fun out log => ?_, ?_, fun other => ?_, ?_⟩
  · rw [work_eq_pending]
    simp [Step.written, Step.reports]
  · rw [arguments_eq, clause, slots_eq_map, clauseReports_eq_flatMap]
  · rw [arguments_eq, arguments_eq, clause_suppressed, clause_suppressed, clauseReports_suppressed,
      clauseReports_suppressed]
  · rw [arguments_eq, clauseReports_suppressed]

end FunctionForge.Rendering
