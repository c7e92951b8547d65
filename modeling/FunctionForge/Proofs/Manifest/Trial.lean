import FunctionForge.Manifest.File
import FunctionForge.Proofs.Output.File
import FunctionForge.Proofs.Pass.Protocol

/-!
# Passes over manifests in memory and on a disk

What a pass reports depends on its sink only through failures: where nothing fails, the report is
the same in memory and on a disk, and so are the texts that are taken.
-/

namespace FunctionForge

namespace ManifestFile

variable (file : ManifestFile) (args : List (String × String))

def annotated : List Declaration := file.unit.annotatedWith functionAnnotation

def location : Location := file.manifest.output.location

def options : Options := (Options.ofArgs (file.optionArgs args)).1

/-- The texts of a pass, up to the first declaration that ends it. -/
def texts : List String := Pass.texts file.unit.resolver (file.options args) file.annotated

/-- What a pass comes to when its texts and the closing get these answers. -/
def verdict (sent : List Sent) (closing : Except WriteError Unit) :
    Except GenerationError Outcome × DiagnosticLog :=
  Pass.verdict file.unit.resolver (file.options args) file.annotated file.location sent closing

/-- The report about a pass. Warnings about options come first. -/
def reportOf (verdict : Except GenerationError Outcome × DiagnosticLog) : PassReport :=
  .ofResult verdict.1 ((Options.ofArgs (file.optionArgs args)).2 ++ verdict.2)

/-- What a pass reports when no request to its sink fails. -/
def report : PassReport :=
  file.reportOf args <|
    if file.annotated = [] then (.ok .nothing, [])
    else file.verdict args ((file.texts args).map fun text => (text, .ok ())) (.ok ())

/-- The text that a pass leaves behind: none if it is ended early or has nothing to generate. -/
def product : Option String :=
  (file.trial args).1.outcome.file.bind (file.trial args).2.file?

section Run

variable {m : Type → Type} [Monad m] [LawfulMonad m]

theorem runPass_eq (sink : Sink m) : file.runPass sink args =
    file.reportOf args <$> Pass.run sink file.unit (file.options args) file.location :=
  (map_eq_pure_bind _ _).symm

variable {file}

theorem run_of_annotated (sink : Sink m) (h : file.annotated ≠ []) :
    Pass.run sink file.unit (file.options args) file.location = (do
      match ← sink.openFile file.location with
      | .error e => pure (.error (.io e), [])
      | .ok () => do
        let sent ← sink.writeEach (file.texts args)
        let closing ← sink.close
        pure (file.verdict args sent closing)) :=
  Pass.run_eq sink (file.options args) file.location h

theorem runPass_of_not_annotated (sink : Sink m) (h : file.annotated = []) :
    file.runPass sink args = pure (file.report args) := by
  rw [runPass_eq, Pass.run_of_not_annotated _ _ _ h, map_pure, report, if_pos h]

end Run

variable {file args}

theorem trial_of_not_annotated (h : file.annotated = []) :
    file.trial args = (file.report args, .empty) := by
  rw [trial, runPass_of_not_annotated _ _ h]
  rfl

theorem trial_of_annotated (h : file.annotated ≠ []) :
    file.trial args = (file.report args,
      ⟨[(file.location.relativePath, String.join (file.texts args))], 1, 1, none⟩) := by
  have hopen : (MemoryFiles.sink.openFile file.location).run .empty =
    (.ok (), MemoryFiles.empty.openFile file.location) := rfl
  obtain ⟨sent, written, hsend, hanswered, hanswers⟩ := MemoryFiles.sink.run_writeEach
    (file.texts args) (MemoryFiles.empty.openFile file.location)
  have hsent := hanswers.eq_of_accepted (MemoryFiles.sink_neverFails.accepted hanswered)
  have htexts : sent.map Prod.fst = file.texts args := by
    rw [hsent, List.map_map]
    exact List.map_id _
  have hclose : MemoryFiles.sink.close.run written = (.ok (),
      ⟨[(file.location.relativePath, String.join (file.texts args))], 1, 1, none⟩) := by
    rw [MemoryFiles.answered_sink hanswered, htexts]
    simp only [MemoryFiles.openFile, Option.map_some, String.empty_append]
    rfl
  rw [trial, runPass_eq, StateT.run_map, run_of_annotated _ _ h, run_bind_of_run_eq hopen]
  simp only
  rw [run_bind_of_run_eq hsend, run_bind_of_run_eq hclose, report, if_neg h, hsent]
  rfl

theorem fst_trial (file : ManifestFile) (args : List (String × String)) :
    (file.trial args).1 = file.report args := by
  by_cases h : file.annotated = []
  · rw [trial_of_not_annotated h]
  · rw [trial_of_annotated h]

/-- On a disk that accepts everything a pass ends as it does in memory. -/
theorem runPass_of_accepts {σ : Type} {disk : Disk (StateM σ)} {root : Path} {start final : σ}
    (h : file.annotated ≠ [])
    (haccepts : FileOutput.Accepts disk root file.location (file.texts args) start final) :
    ((file.runPass (FileOutput.sink disk root) args).run .empty).run start =
      ((file.report args, ⟨[root.join file.location.relativePath], none⟩), final) := by
  obtain ⟨opened, written, between, late, hopen, hsend, hclose⟩ := haccepts.exists_run
  rw [runPass_eq, StateT.run_map, StateT.run_map, run_of_annotated _ _ h,
    run_run_bind_of_run_eq hopen]
  simp only
  rw [run_run_bind_of_run_eq hsend, run_run_bind_of_run_eq hclose, report, if_neg h]
  rfl

theorem run_generate {σ : Type} {disk : Disk (StateM σ)} {directory : Path} {pass : PassReport}
    {output : FileOutput} {removed : List Path} {start late final : σ} {log : DiagnosticLog}
    (hrun : ((file.runPass (FileOutput.sink disk directory) args).run .empty).run start =
      ((pass, output), late))
    (hremove : (disk.removeFiles (file.stale directory pass output.generated)).run late =
      ((removed, log), final)) :
    (file.generate disk directory args).run start =
      (⟨file.path, pass.diagnostics ++ log, pass.outcome, pass.fatal,
        .written directory (if pass.fatal.isSome then [] else output.generated) removed⟩,
        final) := by
  rw [generate, run_bind_of_run_eq hrun, run_bind_of_run_eq hremove]
  rfl

variable (file args)

/-- The ways in which a pass ends when no request to its sink fails. -/
inductive Ends : Prop
  | nothing (hannotated : file.annotated = []) (hfatal : (file.report args).fatal = none)
      (hfile : (file.report args).outcome.file = none) (hproduct : file.product args = none)
  | written (hannotated : file.annotated ≠ []) (hfatal : (file.report args).fatal = none)
      (hfile : (file.report args).outcome.file = some file.location.relativePath)
      (hproduct : file.product args = some (String.join (file.texts args)))
  | fatal (message : String) (hannotated : file.annotated ≠ [])
      (hfatal : (file.report args).fatal = some message)
      (hfile : (file.report args).outcome.file = none) (hproduct : file.product args = none)

theorem ends : file.Ends args := by
  by_cases hannotated : file.annotated = []
  · have hreport : file.report args = file.reportOf args (.ok .nothing, []) := by
      rw [report, if_pos hannotated]
    have hfile : (file.report args).outcome.file = none := by
      rw [hreport]
      rfl
    refine .nothing hannotated (hreport ▸ rfl) hfile ?_
    rw [product, trial_of_not_annotated hannotated, hfile, Option.bind_none]
  · rcases hverdict : file.verdict args ((file.texts args).map fun text => (text, .ok ()))
      (.ok ()) with ⟨result, log⟩
    have hreport : file.report args = file.reportOf args (result, log) := by
      rw [report, if_neg hannotated, hverdict]
    cases result with
    | error e =>
      have hfile : (file.report args).outcome.file = none := by
        rw [hreport]
        rfl
      refine .fatal e.fullMessage hannotated (hreport ▸ rfl) hfile ?_
      rw [product, trial_of_annotated hannotated, hfile, Option.bind_none]
    | ok outcome =>
      have hwritten : outcome.file = some file.location.relativePath := by
        have hconclude := congrArg Prod.fst hverdict
        simp only [verdict, Pass.verdict, Pass.conclude] at hconclude
        split at hconclude
        · cases hconclude
        · cases hconclude
        · cases hconclude
          rfl
      have hfile : (file.report args).outcome.file = some file.location.relativePath := by
        rw [hreport]
        exact hwritten
      refine .written hannotated (hreport ▸ rfl) hfile ?_
      rw [product, trial_of_annotated hannotated, hfile, Option.bind_some, MemoryFiles.file?,
        List.find?_cons, Path.sameAs_refl]
      rfl

end ManifestFile

end FunctionForge
