import FunctionForge.Function

/-!
# Passes

A pass writes the functions of the annotated declarations, in source order, to one file. The file is
closed on every way out once it was opened.
-/

namespace FunctionForge

/-- What a pass has done. -/
structure Outcome where
  /-- The file that was written, none if nothing was annotated. -/
  file : Option Path
  functions : Nat
  /-- The qualified names of the declarations without a function. -/
  skipped : List String
  /-- The qualified names of the declarations that mention names that do not resolve. -/
  deferred : List String
  deriving DecidableEq, Repr

/-- The outcome when nothing was annotated. -/
def Outcome.nothing : Outcome := ⟨none, 0, [], []⟩

instance : Inhabited Outcome := ⟨Outcome.nothing⟩

namespace Pass

/-- The types that stand in arguments. -/
def typesIn (arguments : List TypeArg) : List TypeRef := arguments.filterMap TypeArg.type?

theorem flatMap_names (list : List TypeArg) :
    (typesIn list).flatMap TypeRef.names = TypeArg.namesOf list := by
  induction list with
  | nil => simp [typesIn, TypeArg.namesOf]
  | cons argument list ih =>
    cases argument <;>
      simp [typesIn, List.filterMap_cons, TypeArg.namesOf, TypeArg.names, TypeArg.type?, ← ih]

private theorem length_flatMap_reverse (list : List TypeRef) :
    (list.reverse.flatMap TypeRef.names).length = (list.flatMap TypeRef.names).length := by
  induction list with
  | nil => rfl
  | cons type list ih =>
    rw [List.reverse_cons, List.flatMap_append, List.length_append, ih, List.flatMap_cons,
      List.length_append, List.flatMap_cons, List.length_append, Nat.add_comm]
    rfl

/-- Whether every name in the pending types resolves. The types are worked off a stack. -/
def allResolve (resolver : Resolver) (pending : List TypeRef) : Bool :=
  match pending with
  | [] => true
  | .mk name _ arguments :: rest =>
    if (resolver name).isSome then allResolve resolver ((typesIn arguments).reverse ++ rest)
    else false
termination_by (pending.flatMap TypeRef.names).length
decreasing_by
  rw [List.flatMap_append, List.length_append, length_flatMap_reverse, flatMap_names,
    List.flatMap_cons, List.length_append, TypeRef.names, List.length_cons]
  omega

/-- Whether every name in the property types of a declaration resolves. -/
def isResolvable (resolver : Resolver) (declaration : Declaration) : Bool :=
  allResolve resolver (declaration.properties.map Property.type).reverse

/-- What has been done for the declarations visited so far. -/
structure Progress where
  writer : Writer
  functions : Nat
  skipped : List String
  log : DiagnosticLog
  deriving DecidableEq, Repr

namespace Progress

/-- The progress when a file was just opened. -/
def start (writer : Writer) : Progress := ⟨writer, 0, [], []⟩

end Progress

variable {m : Type → Type} [Monad m]

/-- Writes the functions of declarations in order, up to the first failure. -/
def writeAll (sink : Sink m) (resolver : Resolver) (options : Options) :
    List Declaration → Progress → m (Except GenerationError Unit × Progress)
  | [], progress => pure (.ok (), progress)
  | declaration :: rest, progress =>
    let (result, log) := declaration.function resolver options
    let progress := { progress with log := progress.log ++ log }
    match result with
    | .error e => pure (.error e, progress)
    | .ok none =>
      writeAll sink resolver options rest
        { progress with skipped := progress.skipped ++ [declaration.qualifiedName] }
    | .ok (some text) => do
      let (result, writer) ← progress.writer.write sink text
      let progress := { progress with writer }
      match result with
      | .error e => pure (.error (.io e), progress)
      | .ok () =>
        writeAll sink resolver options rest { progress with functions := progress.functions + 1 }

/-- The declarations that mention names that do not resolve, skipped ones apart. -/
def deferred (resolver : Resolver) (annotated : List Declaration) (skipped : List String) :
    List String :=
  ((annotated.filter fun declaration => !isResolvable resolver declaration).map
    Declaration.qualifiedName).filter fun name => !skipped.contains name

/-- The result of a pass whose file was closed: the first failure, or what was done. -/
def conclude (resolver : Resolver) (annotated : List Declaration) (location : Location)
    (written : Except GenerationError Unit) (closed : Except WriteError Nat) (progress : Progress) :
    Except GenerationError Outcome :=
  match written, closed with
  | .error e, _ => .error e
  | .ok (), .error e => .error (.io e)
  | .ok (), .ok _ =>
    .ok ⟨some location.relativePath, progress.functions, progress.skipped,
      deferred resolver annotated progress.skipped⟩

/-- Runs a pass over the annotated declarations of a unit, with what is reported. -/
def run (sink : Sink m) (unit : CompilationUnit) (options : Options) (location : Location) :
    m (Except GenerationError Outcome × DiagnosticLog) :=
  let annotated := unit.annotatedWith functionAnnotation
  if annotated.isEmpty then pure (.ok .nothing, [])
  else do
    match ← Writer.begin sink location with
    | .error e => pure (.error (.io e), [])
    | .ok writer =>
      let (written, progress) ← writeAll sink unit.resolver options annotated (.start writer)
      let closed ← progress.writer.close sink
      pure (conclude unit.resolver annotated location written closed progress, progress.log)

end Pass

end FunctionForge
