import FunctionForge.Diagnostic
import FunctionForge.Symbol.Table

/-!
# Rendering types

A type is written with qualified names. The arguments are worked off a stack of pending steps, so
deep nesting needs no recursion. A name inside an argument list that does not resolve is reported
and leaves its slot empty; one at the root is for the caller to report.
-/

namespace FunctionForge.Rendering

/-- Work that is still to be done: an argument list, one argument, or a piece of text. -/
inductive Step where
  | arguments (list : List TypeArg)
  | argument (argument : TypeArg)
  | text (s : String)

mutual

/-- More steps than rendering an argument takes. -/
def argumentWeight : TypeArg → Nat
  | .star => 1
  | .projected _ (.mk _ _ arguments) => listWeight arguments + 2

/-- More steps than rendering an argument list takes. -/
def listWeight : List TypeArg → Nat
  | [] => 2
  | argument :: rest => argumentWeight argument + 1 + listWeight rest

end

/-- More steps than a pending step takes. -/
def Step.weight : Step → Nat
  | .arguments list => listWeight list
  | .argument arg => argumentWeight arg
  | .text _ => 1

/-- More steps than the pending steps take. -/
def stackWeight : List Step → Nat
  | [] => 0
  | step :: rest => step.weight + stackWeight rest

/-- The steps after the opening mark of an argument list: the arguments with separators, and the
closing mark. -/
def listSteps (first : TypeArg) : List TypeArg → List Step
  | [] => [.argument first, .text ">"]
  | second :: rest => .argument first :: .text ", " :: listSteps second rest

/-- The word that stands in front of a projected type. -/
def projectionWord : Projection → String
  | .invariant => ""
  | .covariant => "out "
  | .contravariant => "in "

def nullableSteps (nullable : Bool) : List Step := if nullable then [.text "?"] else []

/-- The report of an argument whose name does not resolve. -/
def invalidArgument (name symbol : String) : Diagnostic :=
  .error ("Invalid type argument '" ++ name ++ "'") symbol

private theorem argumentWeight_pos (argument : TypeArg) : 0 < argumentWeight argument := by
  cases argument with
  | star => simp [argumentWeight]
  | projected _ type => cases type; simp [argumentWeight]

theorem stackWeight_append (left right : List Step) :
    stackWeight (left ++ right) = stackWeight left + stackWeight right := by
  induction left with
  | nil => simp [stackWeight]
  | cons step rest ih => simp [stackWeight, ih, Nat.add_assoc]

theorem stackWeight_listSteps (first : TypeArg) (rest : List TypeArg) :
    stackWeight (listSteps first rest) + 2 = listWeight (first :: rest) := by
  induction rest generalizing first with
  | nil => simp [listSteps, stackWeight, Step.weight, listWeight]
  | cons second rest ih =>
    have := ih second
    simp only [listSteps, stackWeight, Step.weight, listWeight] at *
    omega

theorem stackWeight_nullableSteps_le (nullable : Bool) :
    stackWeight (nullableSteps nullable) ≤ 1 := by
  cases nullable <;> simp [nullableSteps, stackWeight, Step.weight]

/-- Works off the pending steps, adding to the text and to the log. -/
def work (resolver : Resolver) (suppress : Bool) (symbol : String) (stack : List Step)
    (out : String) (log : DiagnosticLog) : String × DiagnosticLog :=
  match stack with
  | [] => (out, log)
  | .text s :: rest => work resolver suppress symbol rest (out ++ s) log
  | .arguments [] :: rest => work resolver suppress symbol rest out log
  | .arguments (first :: list) :: rest =>
    work resolver suppress symbol (listSteps first list ++ rest) (out ++ "<") log
  | .argument argument :: rest =>
    if suppress then work resolver suppress symbol rest (out ++ "*") log
    else match argument with
      | .star => work resolver suppress symbol rest (out ++ "*") log
      | .projected projection (.mk name nullable arguments) =>
        match resolver name with
        | some qualified =>
          work resolver suppress symbol (.arguments arguments :: (nullableSteps nullable ++ rest))
            (out ++ projectionWord projection ++ qualified) log
        | none => work resolver suppress symbol rest out (log ++ [invalidArgument name symbol])
termination_by stackWeight stack
decreasing_by
  · simp [stackWeight, Step.weight]
  · simp [stackWeight, Step.weight, listWeight]
  · have := stackWeight_listSteps first list
    simp only [stackWeight_append, stackWeight, Step.weight]
    omega
  · simp [stackWeight, Step.weight, argumentWeight_pos]
  · simp [stackWeight, Step.weight, argumentWeight]
  · have := stackWeight_nullableSteps_le nullable
    simp only [stackWeight, stackWeight_append, Step.weight, argumentWeight]
    omega
  · simp [stackWeight, Step.weight, argumentWeight]

/-- The text of an argument list, empty for no arguments, and what it reports about the symbol. -/
def arguments (resolver : Resolver) (suppress : Bool) (symbol : String) (list : List TypeArg) :
    String × DiagnosticLog :=
  work resolver suppress symbol [.arguments list] "" []

/-- The text of a type and what it reports, or the name of the type if that does not resolve. -/
def type (resolver : Resolver) (suppress : Bool) (symbol : String) :
    TypeRef → Except String (String × DiagnosticLog)
  | .mk name nullable list =>
    match resolver name with
    | none => .error name
    | some qualified =>
      let (clause, log) := arguments resolver suppress symbol list
      .ok (qualified ++ clause ++ (if nullable then "?" else ""), log)

end FunctionForge.Rendering
