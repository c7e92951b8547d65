import FunctionForge.Proofs.Disk.Faults
import FunctionForge.Proofs.Manifest.Agreement
import FunctionForge.Proofs.Path

/-!
# What a failed pass leaves behind

A pass that fails takes back the file that it closed. A file that was opened and could not be closed
is not taken back, and neither is one that an earlier pass left where this one could not open its
own. So whether a failed pass leaves a file behind hangs on how opening and closing ended.
-/

namespace FunctionForge

namespace FileTree

/-- The file at a path can be read, and paths start from where they did. -/
structure Reads (start : FileTree) (path : Path) (tree : FileTree) (text : String) : Prop where
  current : tree.current = start.current
  read : tree.read path = .ok text

namespace Reads

variable {start tree after : FileTree} {path : Path} {text : String}

theorem get?_target (h : start.Reads path tree text) :
    tree.get? (start.target path) = some (.file text.toUTF8) := by
  obtain ⟨place, hlocate, hplace, -⟩ := read_eq_ok_iff.1 h.read
  obtain ⟨-, -, -, rfl⟩ := locate_eq_ok_iff.1 hlocate
  rwa [← target_eq h.current]

theorem of_write (hcurrent : tree.current = start.current)
    (h : tree.write path .empty = .ok after) : start.Reads path after "" := by
  refine ⟨?_, disk_readsBack.create (run_request_eq_ok_iff.2 h)⟩
  obtain ⟨_, -, -, -, rfl⟩ := write_eq_ok_iff.1 h
  exact hcurrent

theorem append {more : String} (hreads : start.Reads path tree text)
    (h : tree.append path more.toUTF8 = .ok after) : start.Reads path after (text ++ more) := by
  refine ⟨?_, disk_readsBack.append hreads.read (run_request_eq_ok_iff.2 h)⟩
  obtain ⟨_, _, -, -, -, rfl⟩ := append_eq_ok_iff.1 h
  exact hreads.current

/-- A file that can be read can be removed. -/
theorem remove (hreads : start.Reads path tree text) : ∃ after,
    tree.remove path = .ok after ∧ after.get? (start.target path) = none := by
  obtain ⟨place, hlocate, hplace, hend⟩ := read_eq_ok_iff.1 hreads.read
  refine ⟨_, remove_eq_ok_iff.2 ⟨place, _, hlocate, hplace, hend, rfl⟩, ?_⟩
  obtain ⟨-, -, -, rfl⟩ := locate_eq_ok_iff.1 hlocate
  have hroot := ne_nil_of_get?_ne (hplace ▸ nofun : tree.get? (tree.target path) ≠ some .directory)
  rw [get?_delete tree _ hroot, if_pos (target_eq hreads.current path).symm]

end Reads

namespace Faulty

variable {σ : Type} {disk : Disk (StateM σ)} {tree : σ → FileTree} (hdisk : Faulty disk tree)

include hdisk

theorem endures (start : FileTree) (path : Path) :
    FileOutput.Endures disk path fun state => start.Reads path (tree state) where
  accepted hreads h := hreads.append ((hdisk.append _ _).of_ok h)
  refused hreads h := (hdisk.append _ _).of_error h ▸ hreads

theorem reads_of_opened {root : Path} {location : Location} {start next : σ} {output : FileOutput}
    (h : (((FileOutput.sink disk root).openFile location).run .empty).run start =
      ((.ok (), output), next)) :
    output = ⟨[], some (root.join location.relativePath, "")⟩ ∧
      (tree start).Reads (root.join location.relativePath) (tree next) "" := by
  obtain ⟨houtput, between, hextends, hwrite⟩ := hdisk.write_of_opened h
  exact ⟨houtput, .of_write hextends.current hwrite⟩

theorem run_removeFiles_of_reads {start : FileTree} {path : Path} {state : σ} {text : String}
    (hreads : start.Reads path (tree state) text) : ∃ next,
      (disk.removeFiles [path]).run state = (([path], []), next) ∧
        (tree next).get? (start.target path) = none := by
  obtain ⟨after, hremove, hgone⟩ := hreads.remove
  have hrun := hdisk.remove path state
  rw [show (FileTree.disk.remove path).run (tree state) = (.ok (), after) from
    run_request_eq_ok_iff.2 hremove] at hrun
  obtain ⟨hok, htree⟩ := Prod.mk.inj hrun
  refine ⟨((disk.remove path).run state).2, ?_, htree ▸ hgone⟩
  have hremoved : (disk.remove path).run state = (.ok (), ((disk.remove path).run state).2) :=
    Prod.ext hok rfl
  rw [Disk.removeFiles, run_bind_of_run_eq hremoved]
  rfl

end Faulty

end FileTree

namespace ManifestFile

section Requests

variable {m : Type → Type} [Monad m] (disk : Disk m) (file : ManifestFile) (directory : Path)
  (args : List (String × String))

/-- Opening the file of a pass. -/
def opening : m (Except WriteError Unit × FileOutput) :=
  ((FileOutput.sink disk directory).openFile file.location).run .empty

/-- Closing the file of a pass, after it was opened and sent the texts. -/
def closing : m (Except WriteError Unit) := do
  let (_, opened) ← file.opening disk directory
  let (_, written) ← ((FileOutput.sink disk directory).writeEach (file.texts args)).run opened
  let (answer, _) ← (FileOutput.sink disk directory).close.run written
  return answer

end Requests

variable {σ : Type} {disk : Disk (StateM σ)} {file : ManifestFile} {directory : Path}
  {args : List (String × String)} {start late final : σ} {pass : PassReport} {output : FileOutput}

theorem run_generate_of_fatal {removed : List Path} {log : DiagnosticLog}
    (hrun : ((file.runPass (FileOutput.sink disk directory) args).run .empty).run start =
      ((pass, output), late))
    (hremove : (disk.removeFiles output.generated).run late = ((removed, log), final))
    (hfatal : pass.fatal ≠ none) :
    (file.generate disk directory args).run start =
      (⟨file.path, pass.diagnostics ++ log, pass.outcome, pass.fatal,
        .written directory [] removed⟩, final) := by
  have hsome : pass.fatal.isSome := Option.isSome_iff_ne_none.2 hfatal
  have hstale : file.stale directory pass output.generated = output.generated := if_pos hsome
  rw [run_generate hrun (hstale.symm ▸ hremove), if_pos hsome]

theorem fatal_of_run (hrun : ((file.runPass (FileOutput.sink disk directory) args).run .empty).run
      start = ((pass, output), late)) :
    ((file.generate disk directory args).run start).1.fatal = pass.fatal := by
  rw [generate, run_bind_of_run_eq hrun]
  rfl

theorem annotated_ne_nil_of_fatal
    (hfatal : ((file.generate disk directory args).run start).1.fatal ≠ none) :
    file.annotated ≠ [] := by
  intro hnone
  have hrun : ((file.runPass (FileOutput.sink disk directory) args).run .empty).run start =
      ((file.report args, .empty), start) := by
    rw [runPass_of_not_annotated _ _ hnone]
    rfl
  rw [fatal_of_run hrun, report, if_pos hnone] at hfatal
  exact hfatal rfl

theorem run_runPass_of_unopened (args : List (String × String))
    (hannotated : file.annotated ≠ []) {e : WriteError}
    (hopen : (file.opening disk directory).run start = ((.error e, output), late)) :
    ((file.runPass (FileOutput.sink disk directory) args).run .empty).run start =
      ((file.reportOf args (.error (.io e), []), output), late) := by
  rw [runPass_eq, StateT.run_map, StateT.run_map, run_of_annotated _ _ hannotated,
    run_run_bind_of_run_eq hopen]
  rfl

theorem run_runPass_of_opened (hannotated : file.annotated ≠ []) {opened written : FileOutput}
    {between middle : σ} {sent : List Sent} {closed : Except WriteError Unit}
    (hopen : (file.opening disk directory).run start = ((.ok (), opened), between))
    (hsend : (((FileOutput.sink disk directory).writeEach (file.texts args)).run opened).run
      between = ((sent, written), middle))
    (hclose : ((FileOutput.sink disk directory).close.run written).run middle =
      ((closed, output), late)) :
    ((file.runPass (FileOutput.sink disk directory) args).run .empty).run start =
      ((file.reportOf args (file.verdict args sent closed), output), late) := by
  rw [runPass_eq, StateT.run_map, StateT.run_map, run_of_annotated _ _ hannotated,
    run_run_bind_of_run_eq hopen]
  simp only
  rw [run_run_bind_of_run_eq hsend, run_run_bind_of_run_eq hclose]
  rfl

/-- A pass that could not open its file may have made directories for it, and nothing else. -/
theorem exists_run_of_unopened {tree : σ → FileTree} (hdisk : FileTree.Faulty disk tree)
    (args : List (String × String)) (hannotated : file.annotated ≠ []) {e : WriteError}
    (hopen : (file.opening disk directory).run start = ((.error e, output), late)) :
    ∃ generation, (file.generate disk directory args).run start = (generation, late) ∧
      generation.fatal ≠ none ∧ generation.effect = .written directory [] [] ∧
      (tree start).Extends (tree late) := by
  obtain ⟨rfl, hextends⟩ := hdisk.extends_of_unopened hopen
  have hrun := run_runPass_of_unopened args hannotated hopen
  have hremove : (disk.removeFiles FileOutput.empty.generated).run late = (([], []), late) := rfl
  exact ⟨_, run_generate_of_fatal hrun hremove nofun, nofun, rfl, hextends⟩

/-- What a failed pass leaves where its file goes. A file that could not be opened is as it was, one
that could not be closed has the beginning of the texts, and only one that was closed is gone. -/
theorem failure_leaves {tree : σ → FileTree} (hdisk : FileTree.Faulty disk tree)
    (file : ManifestFile) (directory : Path) (args : List (String × String)) (start : σ)
    (hfatal : ((file.generate disk directory args).run start).1.fatal ≠ none) :
    let path := directory.join file.location.relativePath
    let place := (tree start).target path
    let effect := ((file.generate disk directory args).run start).1.effect
    let after := tree ((file.generate disk directory args).run start).2
    let opened := ((file.opening disk directory).run start).1.1
    let closed := ((file.closing disk directory args).run start).1
    (opened ≠ .ok () → effect = .written directory [] [] ∧
      ∀ content, after.get? place = some (.file content) ↔
        (tree start).get? place = some (.file content)) ∧
    (opened = .ok () → closed ≠ .ok () → effect = .written directory [] [] ∧
      ∃ text rest, after.get? place = some (.file text.toUTF8) ∧
        text ++ rest = String.join (file.texts args)) ∧
    (opened = .ok () → closed = .ok () → effect = .written directory [] [path] ∧
      after.get? place = none) := by
  intro path place effect after opened closed
  have hannotated := annotated_ne_nil_of_fatal hfatal
  rcases hopen : (file.opening disk directory).run start with ⟨⟨answer, output⟩, between⟩
  have hopened : opened = answer := congrArg (·.1.1) hopen
  cases answer with
  | error e =>
    obtain ⟨generation, hgenerate, -, heffect, hextends⟩ :=
      exists_run_of_unopened hdisk args hannotated hopen
    have hafter : after = tree between := congrArg (fun result => tree result.2) hgenerate
    rw [hopened]
    refine ⟨fun _ => ⟨(congrArg (·.1.effect) hgenerate).trans heffect, ?_⟩, nofun, nofun⟩
    rw [hafter]
    exact hextends.get?_eq_file_iff place
  | ok =>
    obtain ⟨rfl, hreads⟩ := hdisk.reads_of_opened hopen
    have hendures := hdisk.endures (tree start) path
    obtain ⟨sent, left, taken, rest, middle, hsend, -, hkeeps, hall, -⟩ :=
      hendures.run_writeEach (.of_holds hreads) (file.texts args)
    rw [String.empty_append] at hkeeps
    obtain ⟨answer, output, late, hclose, hok, herror⟩ :=
      FileOutput.Endures.run_close hendures hkeeps.of_heldAfter
    have hclosing : (file.closing disk directory args).run start = (answer, late) := by
      rw [closing, run_bind_of_run_eq hopen, run_bind_of_run_eq hsend, run_bind_of_run_eq hclose]
      rfl
    have hclosed : closed = answer := congrArg Prod.fst hclosing
    have hrun := run_runPass_of_opened hannotated hopen hsend hclose
    rw [fatal_of_run hrun] at hfatal
    rw [hopened, hclosed]
    refine ⟨fun h => absurd rfl h, fun _ hanswer => ?_, fun _ hanswer => ?_⟩
    · obtain ⟨rfl, text, more, hleft, rfl⟩ := herror hanswer
      have hremove : (disk.removeFiles []).run late = (([], []), late) := rfl
      have hgenerate := run_generate_of_fatal hrun hremove hfatal
      have hafter : after = tree late := congrArg (fun result => tree result.2) hgenerate
      refine ⟨congrArg (·.1.effect) hgenerate, text, more ++ rest, ?_, ?_⟩
      · rw [hafter]
        exact hleft.get?_target
      · rw [← String.append_assoc, hall]
    · obtain ⟨rfl, hwritten⟩ := hok hanswer
      obtain ⟨final, hremove, hgone⟩ := hdisk.run_removeFiles_of_reads hwritten
      have hgenerate := run_generate_of_fatal hrun hremove hfatal
      have hafter : after = tree final := congrArg (fun result => tree result.2) hgenerate
      refine ⟨congrArg (·.1.effect) hgenerate, ?_⟩
      rw [hafter]
      exact hgone

/-- On a full disk the file is made and then left without its text. -/
theorem failure_leaves_file_on_full_disk :
    FileTree.Faulty FileTree.fullDisk id ∧
      ((oneInterface.generate FileTree.fullDisk ⟨"out"⟩ []).run .fresh).1.fatal ≠ none ∧
      ∃ text, ((oneInterface.generate FileTree.fullDisk ⟨"out"⟩ []).run .fresh).2.get?
        ["work", "out", "GeneratedFunctions.kt"] = some (.file text) := by
  have hfatal :
      ((oneInterface.generate FileTree.fullDisk ⟨"out"⟩ []).run .fresh).1.fatal ≠ none := by
    decide +kernel
  have hopened : ((oneInterface.opening FileTree.fullDisk ⟨"out"⟩).run .fresh).1.1 = .ok () :=
    failure?_answer_eq_none_iff.1 (by decide +kernel)
  have hclosed : ((oneInterface.closing FileTree.fullDisk ⟨"out"⟩ []).run .fresh).1 ≠ .ok () :=
    mt failure?_answer_eq_none_iff.2 (by decide +kernel)
  have htarget : FileTree.target (id .fresh) (.join ⟨"out"⟩ oneInterface.location.relativePath) =
      ["work", "out", "GeneratedFunctions.kt"] := by
    decide +kernel
  obtain ⟨-, hleft, -⟩ :=
    failure_leaves FileTree.faulty_fullDisk oneInterface ⟨"out"⟩ [] .fresh hfatal
  obtain ⟨-, text, -, hplace, -⟩ := hleft hopened hclosed
  rw [htarget] at hplace
  exact ⟨FileTree.faulty_fullDisk, hfatal, _, hplace⟩

/-- The directory `out` with slashes behind it, which lead nowhere. -/
def slashedDirectory (n : Nat) : Path := ⟨"out" ++ String.ofList (List.replicate (n + 1) '/')⟩

theorem text_slashedDirectory_join (n : Nat) :
    ((slashedDirectory n).join oneInterface.location.relativePath).text.toList =
      "out".toList ++ '/' :: (List.replicate n '/' ++ "GeneratedFunctions.kt".toList) := by
  have hpath : oneInterface.location.relativePath = ⟨"GeneratedFunctions.kt"⟩ := by decide +kernel
  have hrelative : Path.isAbsolute ⟨"GeneratedFunctions.kt"⟩ = false := by decide +kernel
  have htext : (slashedDirectory n).text.toList = "out".toList ++ List.replicate (n + 1) '/' := by
    simp only [slashedDirectory, String.toList_append, String.toList_ofList]
  have hlast : (slashedDirectory n).text.toList.getLast? = some '/' := by
    rw [htext, List.replicate_succ', ← List.append_assoc, List.getLast?_concat]
  rw [hpath, Path.join, hrelative, hlast, if_neg Bool.false_ne_true, if_pos (by simp),
    String.toList_append, htext, List.append_assoc]
  rfl

theorem steps_slashedDirectory_join (n : Nat) :
    FileTree.steps ((slashedDirectory n).join oneInterface.location.relativePath) =
      ["out", "GeneratedFunctions.kt"] := by
  rw [FileTree.steps, Path.pieces, text_slashedDirectory_join, Text.splitAt_append_cons,
    List.filter_append, Text.filter_splitAt_replicate]
  decide +kernel

/-- With that many slashes a path is too long for a disk. -/
theorem size_slashedDirectory_join {n : Nat} (hn : FileTree.pathBound ≤ n) : FileTree.pathBound <
    Text.size ((slashedDirectory n).join oneInterface.location.relativePath).text := by
  have hslash : '/'.utf8Size = 1 := rfl
  rw [Text.size, text_slashedDirectory_join, Text.byteLength_append, Text.byteLength_cons,
    Text.byteLength_append, Text.byteLength_replicate, hslash]
  omega

theorem exists_run_of_long (tree : FileTree) {n : Nat} (hn : FileTree.pathBound ≤ n) :
    ∃ generation after,
      (oneInterface.generate FileTree.disk (slashedDirectory n) []).run tree =
        (generation, after) ∧ generation.fatal ≠ none ∧ tree.Extends after := by
  have hannotated : oneInterface.annotated ≠ [] := List.cons_ne_nil _ _
  rcases hopen : (oneInterface.opening FileTree.disk (slashedDirectory n)).run tree with
    ⟨⟨answer, output⟩, late⟩
  cases answer with
  | ok =>
    obtain ⟨-, hreads⟩ := FileTree.faulty_disk.reads_of_opened hopen
    obtain ⟨place, hlocate, -⟩ := FileTree.read_eq_ok_iff.1 hreads.read
    exact absurd (FileTree.locate_eq_ok_iff.1 hlocate).1.length
      (Nat.not_le.2 (size_slashedDirectory_join hn))
  | error e =>
    obtain ⟨generation, hgenerate, hfatal, -, hextends⟩ :=
      exists_run_of_unopened FileTree.faulty_disk [] hannotated hopen
    exact ⟨generation, late, hgenerate, hfatal, hextends⟩

/-- A file from before stays where a failed pass would have put its own. The path of that is too
long for the disk. -/
theorem earlier_file_outlasts_failure :
    let tree : FileTree := ⟨[(["work"], .directory), (["work", "out"], .directory),
      (["work", "out", "GeneratedFunctions.kt"], .file "earlier".toUTF8)], ["work"]⟩
    let directory := slashedDirectory FileTree.pathBound
    let path := directory.join oneInterface.location.relativePath
    let run := (oneInterface.generate FileTree.disk directory []).run tree
    run.1.fatal ≠ none ∧ run.2.get? (run.2.target path) = some (.file "earlier".toUTF8) := by
  intro tree directory path run
  obtain ⟨generation, after, hgenerate, hfatal, hextends⟩ :=
    exists_run_of_long tree (Nat.le_refl FileTree.pathBound)
  have hrun : run = (generation, after) := hgenerate
  have htarget : tree.target path = ["work", "out", "GeneratedFunctions.kt"] := by
    rw [FileTree.target, steps_slashedDirectory_join, FileTree.origin, Path.isAbsolute,
      text_slashedDirectory_join]
    rfl
  rw [hrun]
  refine ⟨hfatal, ?_⟩
  rw [FileTree.target_eq hextends.current, htarget, hextends.get?_eq_file_iff]
  rfl

end ManifestFile

end FunctionForge
