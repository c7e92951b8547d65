import FunctionForge.Proofs.Output.Memory
import FunctionForge.Proofs.Pass.Fold

/-!
# Passes of one session

A session runs passes over a unit that grows, with a generator that collects what is reported, into
one memory. A pass reads nothing of what earlier ones left there, so it does what it would do alone:
its diagnostics come after the others, and its file is the only one that changes.
-/

namespace FunctionForge

namespace MemoryFiles

/-- From one memory to another, files were stored under paths in order, each opened and closed. -/
structure Stores (before after : MemoryFiles) (paths : List Path) : Prop where
  opened : after.opened = before.opened + paths.length
  closed : after.closed = before.closed + paths.length
  buffer (h : before.buffer = none) : after.buffer = none
  paths (more : List Path) :
    List.eraseDupsBy.loop Path.sameAs (paths ++ more) before.paths.reverse =
      List.eraseDupsBy.loop Path.sameAs more after.paths.reverse

namespace Stores

protected theorem refl (memory : MemoryFiles) : memory.Stores memory [] :=
  ⟨rfl, rfl, id, fun _ => rfl⟩

protected theorem commit (memory : MemoryFiles) (path : Path) (text : String) :
    memory.Stores (memory.commit path text) [path] where
  opened := rfl
  closed := rfl
  buffer _ := rfl
  paths more := by
    rw [List.singleton_append, List.eraseDupsBy.loop, List.any_reverse, paths_commit]
    cases memory.paths.any path.sameAs with
    | true => rfl
    | false => rw [if_neg Bool.false_ne_true, List.reverse_concat]

protected theorem trans {first second third : MemoryFiles} {paths others : List Path}
    (h : first.Stores second paths) (h' : second.Stores third others) :
    first.Stores third (paths ++ others) where
  opened := by rw [h'.opened, h.opened, List.length_append, Nat.add_assoc]
  closed := by rw [h'.closed, h.closed, List.length_append, Nat.add_assoc]
  buffer hnone := h'.buffer (h.buffer hnone)
  paths more := by rw [List.append_assoc, h.paths, h'.paths]

theorem paths_eq {memory : MemoryFiles} {paths : List Path}
    (h : MemoryFiles.empty.Stores memory paths) :
    memory.paths = paths.eraseDupsBy Path.sameAs := by
  have hpaths := h.paths []
  rw [List.append_nil, List.eraseDupsBy.loop, List.reverse_reverse] at hpaths
  exact hpaths.symm

end Stores

end MemoryFiles

namespace Session

/-- A session over a unit, with a new generator and no files. -/
def start (unit : CompilationUnit) (options : Options) : Session := ⟨unit, .new options, .empty⟩

/-- A session that has done nothing but to choose the location that another one writes to, with the
unit and the options of that. -/
def alone (session : Session) : Session :=
  ((start session.unit session.generator.options).step (.output session.generator.output)).2

def after (session : Session) (steps : List Step) : Session :=
  steps.foldl (fun session step => (session.step step).2) session

def Step.declaration? : Step → Option Declaration
  | .push declaration => some declaration
  | _ => none

def Step.location? : Step → Option Location
  | .output location => some location
  | _ => none

def annotated (session : Session) : List Declaration :=
  session.unit.annotatedWith functionAnnotation

def path (session : Session) : Path := session.generator.output.relativePath

/-- The paths under which a step stores a file: one for a pass over annotated declarations. -/
def commits (session : Session) : Step → List Path
  | .pass => if session.annotated = [] then [] else [session.path]
  | _ => []

/-- The paths under which steps store files, in order. -/
def committed (session : Session) : List Step → List Path
  | [] => []
  | step :: rest => session.commits step ++ (session.step step).2.committed rest

/-- The texts that a pass writes. -/
def texts (session : Session) : List String :=
  Pass.texts session.unit.resolver session.generator.options session.annotated

/-- What a pass over annotated declarations comes to. -/
def verdict (session : Session) : Except GenerationError Outcome × DiagnosticLog :=
  Pass.verdict session.unit.resolver session.generator.options session.annotated
    session.generator.output (session.texts.map fun text => (text, .ok ())) (.ok ())

variable (session : Session)

theorem step_pass_of_not_annotated (h : session.annotated = []) :
    session.step .pass = (some (.ok .nothing), session) := by
  simp only [step, Generator.pass_eq, Pass.run_of_not_annotated _ _ _ h, map_pure,
    List.append_nil]
  rfl

/-- A pass takes nothing from the log and the memory but to add to them. -/
theorem step_pass_of_annotated (h : session.annotated ≠ []) :
    session.step .pass = (some session.verdict.1,
      ⟨session.unit, { session.generator with log := session.generator.log ++ session.verdict.2 },
        session.memory.commit session.path (String.join session.texts)⟩) := by
  have hpass : (session.generator.pass MemoryFiles.sink session.unit).run session.memory =
      ((session.verdict.1, { session.generator with
        log := session.generator.log ++ session.verdict.2 }),
        session.memory.commit session.path (String.join session.texts)) := by
    rw [Generator.pass_eq, StateT.run_map, Pass.run_memory_of_annotated _ _ _ h]
    rfl
  simp only [step, hpass]

theorem generator_step_pass : (session.step .pass).2.generator =
    { session.generator with log := (session.step .pass).2.generator.log } := by
  by_cases h : session.annotated = []
  · rw [session.step_pass_of_not_annotated h]
  · rw [session.step_pass_of_annotated h]

/-- What a step does to the memory: nothing, or it stores one file. -/
theorem memory_step_cases (step : Step) :
    (session.commits step = [] ∧ (session.step step).2.memory = session.memory) ∨
    (session.commits step = [session.path] ∧ (session.step step).2.memory =
      session.memory.commit session.path (String.join session.texts)) := by
  cases step with
  | push declaration => exact .inl ⟨rfl, rfl⟩
  | output location => exact .inl ⟨rfl, rfl⟩
  | pass =>
    by_cases h : session.annotated = []
    · rw [session.step_pass_of_not_annotated h]
      exact .inl ⟨if_pos h, rfl⟩
    · rw [session.step_pass_of_annotated h]
      exact .inr ⟨if_neg h, rfl⟩

theorem stores_step (step : Step) :
    session.memory.Stores (session.step step).2.memory (session.commits step) := by
  obtain ⟨hcommits, hmemory⟩ | ⟨hcommits, hmemory⟩ := session.memory_step_cases step
  · rw [hcommits, hmemory]
    exact .refl _
  · rw [hcommits, hmemory]
    exact .commit _ _ _

section Run

variable (steps : List Step)

theorem unit_after : (session.after steps).unit =
    (steps.filterMap Step.declaration?).foldl CompilationUnit.push session.unit := by
  induction steps generalizing session with
  | nil => rfl
  | cons step rest ih => cases step <;> exact ih _

theorem options_after :
    (session.after steps).generator.options = session.generator.options := by
  induction steps generalizing session with
  | nil => rfl
  | cons step rest ih =>
    refine (ih _).trans ?_
    cases step with
    | push declaration => rfl
    | output location => rfl
    | pass => rw [generator_step_pass]

/-- The location is the one that was chosen last. -/
theorem output_after : (session.after steps).generator.output =
    (steps.filterMap Step.location?).getLast?.getD session.generator.output := by
  induction steps generalizing session with
  | nil => rfl
  | cons step rest ih =>
    refine (ih _).trans ?_
    cases step with
    | push declaration => rfl
    | output location =>
      rw [List.filterMap_cons_some (f := Step.location?) rfl, List.getLast?_cons]
      rfl
    | pass =>
      rw [generator_step_pass]
      rfl

theorem stores_after :
    session.memory.Stores (session.after steps).memory (session.committed steps) := by
  induction steps generalizing session with
  | nil => exact .refl _
  | cons step rest ih => exact (session.stores_step step).trans (ih _)

end Run

section Frame

variable {session} {step : Step}

theorem memory_step_of_commits_eq_nil (h : session.commits step = []) :
    (session.step step).2.memory = session.memory := by
  obtain ⟨-, hmemory⟩ | ⟨hcommits, -⟩ := session.memory_step_cases step
  · exact hmemory
  · rw [hcommits] at h
    cases h

/-- A step changes no file but the one that it stores. -/
theorem file?_step_of_others {other : Path}
    (h : ∀ path ∈ session.commits step, path.sameAs other = false) :
    (session.step step).2.memory.file? other = session.memory.file? other := by
  obtain ⟨-, hmemory⟩ | ⟨hcommits, hmemory⟩ := session.memory_step_cases step
  · rw [hmemory]
  · rw [hcommits] at h
    rw [hmemory, MemoryFiles.file?_commit, h _ (List.mem_singleton_self _),
      if_neg Bool.false_ne_true]

theorem file?_step_of_commits {path : Path} (h : path ∈ session.commits step) :
    (session.step step).2.memory.file? path = some (String.join session.texts) := by
  obtain ⟨hcommits, -⟩ | ⟨hcommits, hmemory⟩ := session.memory_step_cases step
  · rw [hcommits] at h
    cases h
  · rw [hcommits] at h
    rw [hmemory, MemoryFiles.file?_commit, List.mem_singleton.1 h, Path.sameAs_refl, if_pos rfl]

end Frame

theorem commits_alone (step : Step) : session.alone.commits step = session.commits step := by
  cases step <;> rfl

/-- A step reports what it reports alone, and ends in the same way. -/
theorem step_eq_alone (step : Step) : (session.step step).1 = (session.alone.step step).1 ∧
    (session.step step).2.generator.log =
      session.generator.log ++ (session.alone.step step).2.generator.log := by
  cases step with
  | push declaration => exact ⟨rfl, (List.append_nil _).symm⟩
  | output location => exact ⟨rfl, (List.append_nil _).symm⟩
  | pass =>
    by_cases hannotated : session.annotated = []
    · rw [session.step_pass_of_not_annotated hannotated,
        session.alone.step_pass_of_not_annotated hannotated]
      exact ⟨rfl, (List.append_nil _).symm⟩
    · rw [session.step_pass_of_annotated hannotated,
        session.alone.step_pass_of_annotated hannotated]
      exact ⟨rfl, rfl⟩

/-- Steps of one session do not disturb one another. Whatever came before, a step ends as it ends
alone, adds its diagnostics to the log, and changes the file at its own path only. -/
theorem steps_do_not_disturb (unit : CompilationUnit) (options : Options) (steps : List Step) :
    let before := (start unit options).after steps
    let committed := (start unit options).committed steps
    before.unit = (steps.filterMap Step.declaration?).foldl CompilationUnit.push unit ∧
    before.generator.options = options ∧
    before.generator.output = (steps.filterMap Step.location?).getLast?.getD .default ∧
    before.memory.opened = committed.length ∧
    before.memory.closed = committed.length ∧
    before.memory.buffer = none ∧
    before.memory.paths = committed.eraseDupsBy Path.sameAs ∧
    ∀ step,
      let after := (before.step step).2
      let single := (before.alone.step step).2
      (before.step step).1 = (before.alone.step step).1 ∧
      after.generator.log = before.generator.log ++ single.generator.log ∧
      (before.commits step = [] → after.memory = before.memory) ∧
      (∀ path ∈ before.commits step, ∃ text,
        single.memory.file? path = some text ∧ after.memory.file? path = some text) ∧
      ∀ other, (∀ path ∈ before.commits step, path.sameAs other = false) →
        after.memory.file? other = before.memory.file? other := by
  intro before committed
  have hstores := (start unit options).stores_after steps
  refine ⟨unit_after _ _, options_after _ _, output_after _ _, ?_, ?_, hstores.buffer rfl,
    hstores.paths_eq, fun step => ?_⟩
  · exact hstores.opened.trans (Nat.zero_add _)
  · exact hstores.closed.trans (Nat.zero_add _)
  · obtain ⟨hresult, hlog⟩ := before.step_eq_alone step
    exact ⟨hresult, hlog, memory_step_of_commits_eq_nil, fun path hpath =>
      ⟨_, file?_step_of_commits (before.commits_alone step ▸ hpath), file?_step_of_commits hpath⟩,
      fun other => file?_step_of_others⟩

end Session

end FunctionForge
