import FunctionForge.Output.Memory
import FunctionForge.Pass

/-!
# Generators

A generator runs passes one after the other. It keeps the options, the location of the output, and
everything that was reported.
-/

namespace FunctionForge

/-- What a generator keeps between passes. -/
structure Generator where
  options : Options
  output : Location
  log : DiagnosticLog
  deriving DecidableEq, Repr

namespace Generator

/-- A generator with options that writes to the default location. -/
def new (options : Options) : Generator := ⟨options, .default, []⟩

/-- Runs a pass and keeps what it reports. -/
def pass {m : Type → Type} [Monad m] (sink : Sink m) (generator : Generator)
    (unit : CompilationUnit) : m (Except GenerationError Outcome × Generator) := do
  let (result, log) ← Pass.run sink unit generator.options generator.output
  pure (result, { generator with log := generator.log ++ log })

end Generator

/-- A unit, a generator and the files in memory that its passes write. -/
structure Session where
  unit : CompilationUnit
  generator : Generator
  memory : MemoryFiles

namespace Session

/-- What is done in a session. -/
inductive Step where
  | push (declaration : Declaration)
  | output (location : Location)
  | pass

/-- One step of a session, with the result if it is a pass. -/
def step (session : Session) : Step → Option (Except GenerationError Outcome) × Session
  | .push declaration => (none, { session with unit := session.unit.push declaration })
  | .output location =>
    (none, { session with generator := { session.generator with output := location } })
  | .pass =>
    let ((result, generator), memory) :=
      (session.generator.pass MemoryFiles.sink session.unit).run session.memory
    (some result, { session with generator, memory })

end Session

end FunctionForge
