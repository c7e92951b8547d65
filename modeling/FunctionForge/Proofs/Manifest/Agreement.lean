import FunctionForge.Command.Run
import FunctionForge.Proofs.Disk.Walk
import FunctionForge.Proofs.Manifest.Trial

/-!
# Checking, previewing and generating agree

The three ways to run a pass over a manifest differ in where its texts go. As long as the disk does
what it is asked, they report the same, and what the disk holds in the end is what the preview
shows.
-/

namespace FunctionForge

namespace Disk

variable {σ : Type} {disk : Disk (StateM σ)}

/-- A file that was created holds nothing, and one that was appended to holds more. -/
structure ReadsBack (disk : Disk (StateM σ)) : Prop where
  create {path : Path} {state next : σ} (h : (disk.create path).run state = (.ok (), next)) :
    ((disk.read path).run next).1 = .ok ""
  append {path : Path} {state next : σ} {before text : String}
    (hread : ((disk.read path).run state).1 = .ok before)
    (h : (disk.append path text).run state = (.ok (), next)) :
    ((disk.read path).run next).1 = .ok (before ++ text)

theorem ReadsBack.grows (hdisk : disk.ReadsBack) (path : Path) :
    FileOutput.Grows disk path (fun state text => ((disk.read path).run state).1 = .ok text)
      True where
  accepted := hdisk.append
  refused _ _ := trivial

/-- The failure of removing a file. Finding none to remove is no failure. -/
def removalFailure? : Except DiskError Unit → Option DiskError
  | .ok () | .error .notFound => none
  | .error e => some e

theorem run_removeFiles_of_unfailed {paths : List Path} {start final : σ}
    {answers : List (Except DiskError Unit)}
    (h : (paths.mapM disk.remove).run start = (answers, final))
    (hunfailed : answers.filterMap removalFailure? = []) :
    ∃ removed, (disk.removeFiles paths).run start = ((removed, []), final) := by
  induction paths generalizing start answers with
  | nil =>
    cases h
    exact ⟨[], rfl⟩
  | cons path rest ih =>
    rcases hremove : (disk.remove path).run start with ⟨answer, between⟩
    rcases hrest : (rest.mapM disk.remove).run between with ⟨others, last⟩
    rw [List.mapM_cons, run_bind_of_run_eq hremove, run_bind_of_run_eq hrest] at h
    cases h
    cases answer with
    | ok =>
      obtain ⟨removed, hremoved⟩ := ih hrest hunfailed
      refine ⟨path :: removed, ?_⟩
      rw [removeFiles, run_bind_of_run_eq hremove, run_bind_of_run_eq hremoved]
      rfl
    | error e =>
      cases e with
      | notFound =>
        obtain ⟨removed, hremoved⟩ := ih hrest hunfailed
        refine ⟨removed, ?_⟩
        rw [removeFiles, run_bind_of_run_eq hremove, run_bind_of_run_eq hremoved]
        rfl
      | _ => cases hunfailed

end Disk

theorem FileTree.disk_readsBack : FileTree.disk.ReadsBack where
  create {path tree changed} h := by
    obtain ⟨place, hlocate, hplace, hend, rfl⟩ := run_create_eq_ok_iff.1 h
    refine read_eq_ok_iff.2 ⟨place, locate_put _ hlocate hplace, ?_, hend⟩
    rw [get?_put tree _ place (ne_nil_of_get?_ne hplace), if_pos rfl]
    rfl
  append {path tree changed before text} hread h := by
    obtain ⟨place, content, hlocate, hplace, hend, rfl⟩ := run_append_eq_ok_iff.1 h
    obtain ⟨found, hfound, hbefore, -⟩ := read_eq_ok_iff.1 hread
    rw [hlocate] at hfound
    cases hfound
    rw [hplace] at hbefore
    cases hbefore
    have hfile : tree.get? place ≠ some .directory := by
      rw [hplace]
      nofun
    refine read_eq_ok_iff.2 ⟨place, locate_put _ hlocate hfile, ?_, hend⟩
    rw [get?_put tree _ place (ne_nil_of_get?_ne hfile), if_pos rfl]
    exact congrArg (fun content => some (TreeEntry.file content)) String.toByteArray_append.symm

/-- A generation tells what a pass reported. -/
structure Generation.Reports (generation : Generation) (pass : PassReport) : Prop where
  outcome : generation.outcome = pass.outcome
  diagnostics : generation.diagnostics = pass.diagnostics
  fatal : generation.fatal = pass.fatal

/-- A check and a generation report the same, and so the commands exit with the same code. -/
structure Check.Agrees (check : Check) (generation : Generation) : Prop where
  outcome : generation.outcome = check.outcome
  diagnostics : generation.diagnostics = check.diagnostics
  fatal : generation.fatal = check.fatal
  isValid : check.isValid = !generation.hasErrors
  exit (quiet silent : Bool) (format : Command.Format) :
    (Command.generateAnswer quiet generation).exit = (Command.checkAnswer silent format check).exit

namespace ManifestFile

/-- What fails when a manifest generates: requests to open, write and close the file, and requests
to remove one. -/
def failures {m : Type → Type} [Monad m] (disk : Disk m) (file : ManifestFile) (directory : Path)
    (args : List (String × String)) : m (List WriteError × List DiskError) := do
  let ((pass, failures), output) ←
    ((file.runPass (FileOutput.sink disk directory).watched args).run []).run .empty
  let answers ← (file.stale directory pass output.generated).mapM disk.remove
  return (failures, answers.filterMap Disk.removalFailure?)

theorem agrees_of_reports {file : ManifestFile} {args : List (String × String)}
    {generation : Generation} (h : generation.Reports (file.report args)) :
    (file.check args).Agrees generation := by
  have hvalid : (file.check args).isValid = !generation.hasErrors := by
    rw [Check.isValid, Generation.hasErrors, h.fatal, h.diagnostics, ← fst_trial, Bool.not_or,
      Option.not_isSome]
    rfl
  refine ⟨?_, ?_, ?_, hvalid, fun quiet silent format => ?_⟩
  · rw [h.outcome, ← fst_trial]
    rfl
  · rw [h.diagnostics, ← fst_trial]
    rfl
  · rw [h.fatal, ← fst_trial]
    rfl
  · change Command.exitCode _ = Command.exitCode _
    rw [hvalid, Bool.not_not]

section Run

variable {σ : Type} {disk : Disk (StateM σ)} {file : ManifestFile} {directory : Path}
  {args : List (String × String)} {start final : σ}

theorem run_watched_of_annotated (h : file.annotated ≠ []) :
    (file.runPass (FileOutput.sink disk directory).watched args).run [] = (do
      match ← (FileOutput.sink disk directory).openFile file.location with
      | .error e => pure (file.reportOf args (.error (.io e), []), [e])
      | .ok () => do
        let sent ← (FileOutput.sink disk directory).writeEach (file.texts args)
        let closing ← (FileOutput.sink disk directory).close
        pure (file.reportOf args (file.verdict args sent closing),
          sent.flatMap (fun entry => (failure? entry.2).toList) ++
            (failure? closing).toList)) := by
  rw [runPass_eq, StateT.run_map,
    Pass.run_observed_eq (FileOutput.sink disk directory).observes_watched _ _ h, map_bind]
  refine bind_congr fun answer => ?_
  cases answer with
  | error e => rfl
  | ok =>
    simp only [map_bind, map_pure]
    rfl

/-- A pass that nothing fails in writes all its texts to a file that can be read. -/
theorem accepts_of_unfailed (hdisk : disk.ReadsBack) (h : file.annotated ≠ [])
    {report : PassReport} {output : FileOutput}
    (hrun : (((file.runPass (FileOutput.sink disk directory).watched args).run []).run .empty).run
      start = (((report, []), output), final)) :
    FileOutput.Accepts disk directory file.location (file.texts args) start final ∧
      ((disk.read (directory.join file.location.relativePath)).run final).1 =
        .ok (String.join (file.texts args)) := by
  rw [run_watched_of_annotated h] at hrun
  rcases hopen : (((FileOutput.sink disk directory).openFile file.location).run .empty).run start
    with ⟨⟨answer, opened⟩, between⟩
  rw [run_run_bind_of_run_eq hopen] at hrun
  cases answer with
  | error e => cases hrun
  | ok =>
    obtain ⟨rfl, _, -, hcreate⟩ := FileOutput.run_openFile_eq_ok_iff.1 hopen
    obtain ⟨sent, closing, written, closed, late, last, hsend, hclose, -, hok, -⟩ :=
      FileOutput.exists_run_of_opened (hdisk.grows _) hopen (hdisk.create hcreate)
        (file.texts args)
    simp only at hrun
    rw [run_run_bind_of_run_eq hsend, run_run_bind_of_run_eq hclose] at hrun
    have hnone : sent.flatMap (fun entry => (failure? entry.2).toList) ++
        (failure? closing).toList = [] := congrArg (·.1.1.2) hrun
    obtain ⟨hsent, hclosing⟩ := List.append_eq_nil_iff.1 hnone
    have haccepted : ∀ entry ∈ sent, entry.2 = .ok () := fun entry hmem =>
      failure?_answer_eq_none_iff.1 <| Option.toList_eq_nil_iff.1 <|
        List.flatMap_eq_nil_iff.1 hsent entry hmem
    obtain rfl : last = final := congrArg Prod.snd hrun
    exact hok (refusal?_eq_none_iff.2 haccepted)
      (failure?_answer_eq_none_iff.1 (Option.toList_eq_nil_iff.1 hclosing))

theorem fst_runPass_watched {m : Type → Type} [Monad m] [LawfulMonad m] (sink : Sink m)
    (file : ManifestFile) (args : List (String × String)) :
    Prod.fst <$> (file.runPass sink.watched args).run [] = file.runPass sink args := by
  rw [runPass_eq, runPass_eq, ← Pass.fst_run_observed sink.observes_watched, StateT.run_map,
    Functor.map_map, Functor.map_map]

/-- Where the files of a pass go, from the root. -/
def generated (file : ManifestFile) (directory : Path) : List Path :=
  if file.annotated = [] then [] else [directory.join file.location.relativePath]

/-- As long as nothing fails, a pass below a directory reports what it reports in memory, and the
file it writes is there before anything is removed. -/
theorem exists_run_of_unfailed (hdisk : disk.ReadsBack)
    (h : ((file.failures disk directory args).run start).1 = ([], [])) :
    ∃ removed late final,
      ((file.runPass (FileOutput.sink disk directory) args).run .empty).run start =
        ((file.report args, ⟨file.generated directory, none⟩), late) ∧
      (disk.removeFiles (file.stale directory (file.report args) (file.generated directory))).run
        late = ((removed, []), final) ∧
      (file.annotated ≠ [] →
        ((disk.read (directory.join file.location.relativePath)).run late).1 =
          .ok (String.join (file.texts args))) := by
  rcases hwatched : (((file.runPass (FileOutput.sink disk directory).watched args).run []).run
    .empty).run start with ⟨⟨⟨report, refused⟩, output⟩, late⟩
  rcases hremove : ((file.stale directory report output.generated).mapM disk.remove).run late with
    ⟨answers, final⟩
  rw [failures, run_bind_of_run_eq hwatched, run_bind_of_run_eq hremove] at h
  obtain ⟨rfl, hunfailed⟩ := Prod.mk.inj h
  have hrun : ((file.runPass (FileOutput.sink disk directory) args).run .empty).run start =
      ((report, output), late) := by
    rw [← fst_runPass_watched, StateT.run_map, StateT.run_map, hwatched]
    rfl
  obtain ⟨removed, hremoved⟩ := Disk.run_removeFiles_of_unfailed hremove hunfailed
  have hexpected : report = file.report args ∧ output = ⟨file.generated directory, none⟩ ∧
      (file.annotated ≠ [] →
        ((disk.read (directory.join file.location.relativePath)).run late).1 =
          .ok (String.join (file.texts args))) := by
    by_cases hannotated : file.annotated = []
    · rw [runPass_of_not_annotated _ _ hannotated] at hrun
      cases hrun
      rw [generated, if_pos hannotated]
      exact ⟨rfl, rfl, fun hsome => absurd hannotated hsome⟩
    · obtain ⟨haccepts, hread⟩ := accepts_of_unfailed hdisk hannotated hwatched
      rw [runPass_of_accepts hannotated haccepts] at hrun
      cases hrun
      rw [generated, if_neg hannotated]
      exact ⟨rfl, rfl, fun _ => hread⟩
  obtain ⟨rfl, rfl, hread⟩ := hexpected
  exact ⟨removed, late, final, hrun, hremoved, hread⟩

end Run

/-- Checking, previewing and generating agree on what they report, and the file on the disk holds
the text of the preview. A pass that is ended early leaves no file, while the preview shows what
came before. -/
theorem generations_agree {σ : Type} {disk : Disk (StateM σ)} (hdisk : disk.ReadsBack)
    (file : ManifestFile) (directory : Path) (args : List (String × String)) (start : σ)
    (hunfailed : ((file.failures disk directory args).run start).1 = ([], [])) :
    let real := ((file.generate disk directory args).run start).1
    let final := ((file.generate disk directory args).run start).2
    (file.check args).Agrees (file.preview args) ∧ (file.check args).Agrees real ∧
    ∃ previewed files removed, (file.preview args).effect = .preview previewed ∧
      real.effect = .written directory files removed ∧
      (real.fatal = none →
        previewed.length = (if file.unit.annotatedWith functionAnnotation = [] then 0 else 1) ∧
        files = previewed.map (fun entry => directory.join entry.1) ∧
        ∀ entry ∈ previewed,
          ((disk.read (directory.join entry.1)).run final).1 = .ok entry.2) ∧
      (real.fatal ≠ none → files = [] ∧
        previewed = [(file.location.relativePath, String.join (file.texts args))]) := by
  obtain ⟨removed, late, final, hrun, hremove, hread⟩ := exists_run_of_unfailed hdisk hunfailed
  rw [run_generate hrun hremove]
  have hpreview : (file.preview args).Reports (file.report args) := by
    rw [← fst_trial]
    exact ⟨rfl, rfl, rfl⟩
  refine ⟨agrees_of_reports hpreview, agrees_of_reports ⟨rfl, List.append_nil _, rfl⟩,
    (file.trial args).2.files, _, removed, rfl, rfl, ?_⟩
  cases file.ends args with
  | nothing hannotated hfatal hfile _ =>
    rw [trial_of_not_annotated hannotated, hfatal, generated, if_pos hannotated]
    refine ⟨fun _ => ⟨?_, rfl, nofun⟩, fun h => absurd rfl h⟩
    exact (if_pos hannotated).symm
  | written hannotated hfatal hfile _ =>
    -- Nothing is stale, so what was read before the removals is what is read after them.
    have hstale : file.stale directory (file.report args) (file.generated directory) = [] := by
      rw [stale, hfatal, hfile]
      rfl
    rw [hstale] at hremove
    cases hremove
    rw [trial_of_annotated hannotated, hfatal, generated, if_neg hannotated]
    refine ⟨fun _ => ⟨?_, rfl, ?_⟩, fun h => absurd rfl h⟩
    · exact (if_neg hannotated).symm
    · exact List.forall_mem_singleton.2 (hread hannotated)
  | fatal message hannotated hfatal _ _ =>
    rw [trial_of_annotated hannotated, hfatal]
    exact ⟨nofun, fun _ => ⟨rfl, rfl⟩⟩

/-- A manifest with one interface that asks for a function. -/
def oneInterface : ManifestFile :=
  let request : Annotation := ⟨ functionAnnotation, [(nameArgument, "first")]⟩
  ⟨⟨Manifest.standardFile⟩, "", .empty,
    ⟨[⟨"First", "", .interface, [request], []⟩], .empty ""⟩⟩

/-- The directory below which the function is written is not there yet. -/
theorem generations_agree_of_oneInterface :
    FileTree.disk.ReadsBack ∧
      ((oneInterface.failures FileTree.disk ⟨"out"⟩ []).run .fresh).1 = ([], []) ∧
      ∃ entry, (oneInterface.preview []).effect = .preview [entry] ∧
        ((FileTree.disk.read (Path.join ⟨"out"⟩ entry.1)).run
          ((oneInterface.generate FileTree.disk ⟨"out"⟩ []).run .fresh).2).1 = .ok entry.2 := by
  have hunfailed : ((oneInterface.failures FileTree.disk ⟨"out"⟩ []).run .fresh).1 = ([], []) := by
    decide +kernel
  have hfatal : ((oneInterface.generate FileTree.disk ⟨"out"⟩ []).run .fresh).1.fatal = none := by
    decide +kernel
  have hannotated : oneInterface.unit.annotatedWith functionAnnotation ≠ [] := List.cons_ne_nil _ _
  obtain ⟨-, -, previewed, files, removed, hpreviewed, -, hwritten, -⟩ :=
    generations_agree FileTree.disk_readsBack oneInterface ⟨"out"⟩ [] .fresh hunfailed
  obtain ⟨hlength, -, hread⟩ := hwritten hfatal
  rw [if_neg hannotated] at hlength
  obtain ⟨entry, rfl⟩ := List.length_eq_one_iff.1 hlength
  exact ⟨FileTree.disk_readsBack, hunfailed, entry, hpreviewed,
    hread entry (List.mem_singleton.2 rfl)⟩

end ManifestFile

end FunctionForge
