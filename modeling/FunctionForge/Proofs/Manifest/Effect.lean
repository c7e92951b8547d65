import FunctionForge.Command.Run
import FunctionForge.Proofs.Disk.Writing
import FunctionForge.Proofs.Manifest.Trial
import FunctionForge.Proofs.Manifest.Unit
import FunctionForge.Proofs.Output.Location

/-!
# What generating does to a tree

Generating changes a tree at one file and at the directories on the way to it. What it leaves at the
file depends on the manifest and the arguments alone, so it does not matter what ran before.
-/

namespace FunctionForge

/-- An identifier with an extension is a name. -/
theorem Location.endsInName_relativePath {package file : String}
    (h : Name.IsIdentifier file.toList) : (new package file).relativePath.EndsInName :=
  (isFileName_withExtension h).endsInName.join _

namespace ManifestFile

variable {file : ManifestFile} {args : List (String × String)} {directory : Path}
  {tree after : FileTree} {generation : Generation}

/-- A manifest that was read from a text without errors. -/
def Accepted (file : ManifestFile) : Prop := ∃ path content, ofText path content = .ok file

/-- The path of the file that a manifest generates below a directory. -/
def outputPath (file : ManifestFile) (directory : Path) : Path :=
  directory.join file.manifest.output.location.relativePath

theorem Accepted.valid (h : file.Accepted) : file.manifest.Valid := by
  obtain ⟨path, content, h⟩ := h
  obtain ⟨manifest, -, h⟩ := exists_of_bind_eq_ok h
  obtain ⟨unit, hunit, h⟩ := exists_of_bind_eq_ok h
  cases h
  exact (Manifest.forall_mem_rules_iff manifest).1 <|
    (Manifest.toUnit_enforced content manifest).exists_ok_iff.1 ⟨unit, hunit⟩

theorem Accepted.endsInName (h : file.Accepted) (directory : Path) :
    (file.outputPath directory).EndsInName :=
  (Location.endsInName_relativePath h.valid.outputFile.2).join directory

variable (file args directory tree) in
/-- What generating makes of a tree, and what it tells about that. -/
inductive Generates : Generation → FileTree → Prop
  | written {generation : Generation} {after : FileTree} (text : String)
      (hannotated : file.annotated ≠ []) (hfatal : generation.fatal = none)
      (heffect : generation.effect = .written directory [file.outputPath directory] [])
      (hproduct : file.product args = some text)
      (hholds : tree.Holds (file.outputPath directory) after text) :
      Generates generation after
  | fatal {generation : Generation} (late : FileTree) (message text : String)
      (hannotated : file.annotated ≠ []) (hfatal : generation.fatal = some message)
      (heffect : generation.effect = .written directory [] [file.outputPath directory])
      (hproduct : file.product args = none)
      (hholds : tree.Holds (file.outputPath directory) late text) :
      Generates generation (late.delete (tree.target (file.outputPath directory)))
  | absent {generation : Generation} (hannotated : file.annotated = [])
      (hfatal : generation.fatal = none) (heffect : generation.effect = .written directory [] [])
      (hproduct : file.product args = none)
      (hentry : tree.found? (file.outputPath directory) = none) :
      Generates generation tree
  | stale {generation : Generation} (content : ByteArray) (hannotated : file.annotated = [])
      (hfatal : generation.fatal = none)
      (heffect : generation.effect = .written directory [] [file.outputPath directory])
      (hproduct : file.product args = none)
      (hentry : tree.found? (file.outputPath directory) = some (.file content))
      (hlocate : tree.locate (file.outputPath directory) =
        .ok (tree.target (file.outputPath directory))) :
      Generates generation (tree.delete (tree.target (file.outputPath directory)))

theorem run_removeFiles_of_ok {path : Path} (h : tree.remove path = .ok after) :
    (FileTree.disk.removeFiles [path]).run tree = (([path], []), after) := by
  have hremove : (FileTree.disk.remove path).run tree = (.ok (), after) :=
    FileTree.run_request_eq_ok_iff.2 h
  rw [Disk.removeFiles, run_bind_of_run_eq hremove]
  rfl

theorem run_removeFiles_of_notFound {path : Path} (h : tree.remove path = .error .notFound) :
    (FileTree.disk.removeFiles [path]).run tree = (([], []), tree) := by
  have hremove : (FileTree.disk.remove path).run tree = (.error .notFound, tree) :=
    FileTree.run_request_of_error h
  rw [Disk.removeFiles, run_bind_of_run_eq hremove]
  rfl

section Admits

variable (hname : (file.outputPath directory).EndsInName)
  (hadmits : tree.Admits (file.outputPath directory))

include hname hadmits

theorem generates : file.Generates args directory tree
    ((file.generate FileTree.disk directory args).run tree).1
    ((file.generate FileTree.disk directory args).run tree).2 := by
  have haccepts := FileTree.exists_accepts hadmits hname (file.texts args)
  cases file.ends args with
  | written hannotated hfatal hfile hproduct =>
    obtain ⟨after, haccepts, hholds⟩ := haccepts
    have hrun := runPass_of_accepts hannotated haccepts
    have hremove : (FileTree.disk.removeFiles (file.stale directory (file.report args)
        [file.outputPath directory])).run after = (([], []), after) := by
      rw [stale, hfatal, hfile]
      rfl
    rw [run_generate hrun hremove, hfatal]
    exact .written _ hannotated rfl rfl hproduct hholds
  | fatal message hannotated hfatal hfile hproduct =>
    obtain ⟨late, haccepts, hholds⟩ := haccepts
    have hrun := runPass_of_accepts hannotated haccepts
    have hremove : (FileTree.disk.removeFiles (file.stale directory (file.report args)
        [file.outputPath directory])).run late = (([file.outputPath directory], []),
          late.delete (tree.target (file.outputPath directory))) := by
      rw [stale, hfatal]
      exact run_removeFiles_of_ok (hholds.remove hadmits hname)
    rw [run_generate hrun hremove, hfatal]
    exact .fatal late message _ hannotated rfl rfl hproduct hholds
  | nothing hannotated hfatal hfile hproduct =>
    have hrun : ((file.runPass (FileOutput.sink FileTree.disk directory) args).run .empty).run
        tree = ((file.report args, .empty), tree) := by
      rw [runPass_of_not_annotated _ _ hannotated]
      rfl
    have hstale : file.stale directory (file.report args) [] = [file.outputPath directory] := by
      rw [stale, hfatal, hfile]
      rfl
    obtain ⟨hentry, hremove⟩ | ⟨content, hentry, hlocate, hremove⟩ :=
      FileTree.remove_cases hadmits hname
    · have hremoved : (FileTree.disk.removeFiles (file.stale directory (file.report args)
          [])).run tree = (([], []), tree) := by
        rw [hstale]
        exact run_removeFiles_of_notFound hremove
      rw [run_generate hrun hremoved, hfatal]
      exact .absent hannotated rfl rfl hproduct hentry
    · have hremoved : (FileTree.disk.removeFiles (file.stale directory (file.report args)
          [])).run tree = (([file.outputPath directory], []),
            tree.delete (tree.target (file.outputPath directory))) := by
        rw [hstale]
        exact run_removeFiles_of_ok hremove
      rw [run_generate hrun hremoved, hfatal]
      exact .stale content hannotated rfl rfl hproduct hentry hlocate

namespace Generates

omit hname in
theorem get?_of_ne (h : file.Generates args directory tree generation after) {p : Place}
    (hp : p ≠ tree.target (file.outputPath directory)) :
    after.get? p = tree.get? p ∨ p ∈ tree.above (file.outputPath directory) ∧
      file.annotated ≠ [] ∧ after.get? p = some .directory := by
  have hroot := FileTree.ne_nil_of_get?_ne hadmits.target
  cases h with
  | written text hannotated _ _ _ hholds =>
    by_cases habove : p ∈ tree.above (file.outputPath directory)
    · exact .inr ⟨habove, hannotated, hholds.above p habove⟩
    · exact .inl (hholds.others p habove hp)
  | fatal late _ _ hannotated _ _ _ hholds =>
    rw [FileTree.get?_delete late p hroot, if_neg hp]
    by_cases habove : p ∈ tree.above (file.outputPath directory)
    · exact .inr ⟨habove, hannotated, hholds.above p habove⟩
    · exact .inl (hholds.others p habove hp)
  | absent => exact .inl rfl
  | stale =>
    rw [FileTree.get?_delete tree p hroot, if_neg hp]
    exact .inl rfl

omit hname hadmits in
theorem current (h : file.Generates args directory tree generation after) :
    after.current = tree.current := by
  cases h with
  | written _ _ _ _ _ hholds => exact hholds.current
  | fatal _ _ _ _ _ _ _ hholds => exact hholds.current
  | absent => rfl
  | stale => rfl

omit hname in
theorem target_ne_directory (h : file.Generates args directory tree generation after) :
    after.get? (tree.target (file.outputPath directory)) ≠ some .directory := by
  have hroot := FileTree.ne_nil_of_get?_ne hadmits.target
  cases h with
  | written _ _ _ _ _ hholds =>
    rw [hholds.target]
    nofun
  | fatal late =>
    rw [FileTree.get?_delete late _ hroot, if_pos rfl]
    nofun
  | absent => exact hadmits.target
  | stale =>
    rw [FileTree.get?_delete tree _ hroot, if_pos rfl]
    nofun

omit hname in
/-- There is still room for the file. -/
theorem admits (h : file.Generates args directory tree generation after) :
    after.Admits (file.outputPath directory) := by
  have hkeeps (p : Place) (hp : p ≠ tree.target (file.outputPath directory))
      (hfree : ∀ content, tree.get? p ≠ some (.file content)) (content : ByteArray) :
      after.get? p ≠ some (.file content) := by
    obtain hsame | ⟨-, -, hdirectory⟩ := h.get?_of_ne hadmits hp
    · rw [hsame]
      exact hfree content
    · rw [hdirectory]
      nofun
  have horigin : tree.origin (file.outputPath directory) ≠
      tree.target (file.outputPath directory) := by
    intro heq
    exact hadmits.target (heq ▸ hadmits.origin)
  refine ⟨hadmits.fits, ?_, ?_, ?_, ?_⟩
  · rw [FileTree.origin_eq h.current]
    obtain hsame | ⟨-, -, hdirectory⟩ := h.get?_of_ne hadmits horigin
    · rw [hsame, hadmits.origin]
    · exact hdirectory
  · rw [FileTree.above_eq h.current]
    exact fun p hp => hkeeps p (hadmits.ne_target hp) (hadmits.above p hp)
  · rw [FileTree.target_eq h.current]
    exact h.target_ne_directory hadmits
  · rw [FileTree.target_eq h.current, FileTree.above_eq h.current]
    exact hadmits.apart

theorem found? (h : file.Generates args directory tree generation after) :
    after.found? (file.outputPath directory) =
      (file.product args).map fun text => .file text.toUTF8 := by
  cases h with
  | written text _ _ _ hproduct hholds =>
    rw [hholds.found? hadmits hname, hproduct]
    rfl
  | fatal late _ _ _ _ _ hproduct hholds =>
    have hfile : late.get? (tree.target (file.outputPath directory)) ≠ some .directory := by
      rw [hholds.target]
      nofun
    rw [FileTree.found?_delete hname (hholds.locate hadmits hname) hfile, hproduct]
    rfl
  | absent _ _ _ hproduct hentry => rw [hentry, hproduct]; rfl
  | stale _ _ _ _ hproduct _ hlocate =>
    rw [FileTree.found?_delete hname hlocate hadmits.target, hproduct]
    rfl

omit hname in
/-- What is generated depends on the manifest and the arguments alone. -/
theorem get?_of_annotated (h : file.Generates args directory tree generation after)
    (hannotated : file.annotated ≠ []) :
    (∀ p ∈ tree.above (file.outputPath directory), after.get? p = some .directory) ∧
      after.get? (tree.target (file.outputPath directory)) =
        (file.product args).map fun text => .file text.toUTF8 := by
  have hroot := FileTree.ne_nil_of_get?_ne hadmits.target
  cases h with
  | written _ _ _ _ hproduct hholds =>
    rw [hproduct]
    exact ⟨hholds.above, hholds.target⟩
  | fatal late _ _ _ _ _ hproduct hholds =>
    rw [hproduct]
    refine ⟨fun p hp => ?_, ?_⟩
    · rw [FileTree.get?_delete late p hroot, if_neg (hadmits.ne_target hp), hholds.above p hp]
    · rw [FileTree.get?_delete late _ hroot, if_pos rfl]
      rfl
  | absent hnone => exact absurd hnone hannotated
  | stale _ hnone => exact absurd hnone hannotated

omit hname hadmits

theorem exists_product (h : file.Generates args directory tree generation after)
    (hannotated : file.annotated ≠ []) (hfatal : generation.fatal = none) :
    ∃ text, file.product args = some text ∧
      generation.effect = .written directory [file.outputPath directory] [] := by
  cases h with
  | written text _ _ heffect hproduct => exact ⟨text, hproduct, heffect⟩
  | fatal _ _ _ _ hsome => rw [hfatal] at hsome; cases hsome
  | absent hnone => exact absurd hnone hannotated
  | stale _ hnone => exact absurd hnone hannotated

theorem effect_of_fatal (h : file.Generates args directory tree generation after)
    (hfatal : generation.fatal ≠ none) : file.product args = none ∧
      generation.effect = .written directory [] [file.outputPath directory] := by
  cases h with
  | written _ _ hnone => exact absurd hnone hfatal
  | fatal _ _ _ _ _ heffect hproduct => exact ⟨hproduct, heffect⟩
  | absent _ hnone => exact absurd hnone hfatal
  | stale _ _ hnone => exact absurd hnone hfatal

theorem effect_of_not_annotated (h : file.Generates args directory tree generation after)
    (hannotated : file.annotated = []) : file.product args = none ∧
      generation.effect = .written directory []
        (if (tree.found? (file.outputPath directory)).isSome then [file.outputPath directory]
          else []) := by
  cases h with
  | written _ hsome => exact absurd hannotated hsome
  | fatal _ _ _ hsome => exact absurd hannotated hsome
  | absent _ _ heffect hproduct hentry =>
    rw [hentry]
    exact ⟨hproduct, heffect⟩
  | stale _ _ _ heffect hproduct hentry =>
    rw [hentry]
    exact ⟨hproduct, heffect⟩

include hname hadmits

/-- What was done once is done. -/
theorem again {again : FileTree} {repeated : Generation}
    (h : file.Generates args directory tree generation after)
    (h' : file.Generates args directory after repeated again) (p : Place) :
    again.get? p = after.get? p := by
  -- Without functions the file is gone already, so there is nothing to remove again.
  by_cases hannotated : file.annotated = []
  · have hentry := h.found? hname hadmits
    cases h' with
    | written _ hsome => exact absurd hannotated hsome
    | fatal _ _ _ hsome => exact absurd hannotated hsome
    | absent => rfl
    | stale _ _ _ _ hproduct hthere =>
      rw [hproduct, hthere] at hentry
      cases hentry
  · obtain ⟨habove, htarget⟩ := h.get?_of_annotated hadmits hannotated
    obtain ⟨-, htarget'⟩ := h'.get?_of_annotated (h.admits hadmits) hannotated
    rw [FileTree.target_eq h.current] at htarget'
    by_cases hp : p = tree.target (file.outputPath directory)
    · rw [hp, htarget, htarget']
    · rw [← FileTree.target_eq h.current] at hp
      obtain hsame | ⟨hmem, -, hdirectory⟩ := h'.get?_of_ne (h.admits hadmits) hp
      · exact hsame
      · rw [FileTree.above_eq h.current] at hmem
        rw [hdirectory, habove p hmem]

end Generates

end Admits

/-- The tree after a run below a directory. -/
def treeAfter (directory : Path) (tree : FileTree)
    (run : ManifestFile × List (String × String)) : FileTree :=
  ((run.1.generate FileTree.disk directory run.2).run tree).2

theorem foldl_treeAfter_admits {path : Path} {runs : List (ManifestFile × List (String × String))}
    (hadmits : tree.Admits path) (hruns : ∀ run ∈ runs, run.1.Accepted ∧
      run.1.outputPath directory = path) : (runs.foldl (treeAfter directory) tree).Admits path := by
  induction runs generalizing tree with
  | nil => exact hadmits
  | cons run rest ih =>
    obtain ⟨⟨haccepted, rfl⟩, hrest⟩ := List.forall_mem_cons.1 hruns
    exact ih ((generates (haccepted.endsInName directory) hadmits).admits hadmits) hrest

theorem run_load (config : Path) (tree : FileTree) :
    ∃ result, (load FileTree.disk config).run tree = (result, tree) := by
  have hread : (FileTree.disk.read config).run tree = (tree.read config, tree) := rfl
  rw [load, run_bind_of_run_eq hread]
  cases tree.read config with
  | error e => exact ⟨_, rfl⟩
  | ok content => exact ⟨_, rfl⟩

theorem run_dryRun (verbose : Nat) (quiet : Bool) (config output : Path)
    (args : List (String × String)) (tree : FileTree) :
    ((Command.Line.run FileTree.disk ⟨verbose, quiet, .generate config output args true⟩).run
      tree).2 = tree := by
  obtain ⟨result, hload⟩ := run_load config tree
  simp only [Command.Line.run]
  rw [run_bind_of_run_eq hload]
  cases result with
  | error e => rfl
  | ok file => rfl

/-- What generating does to a tree with room for the file, and what is left of it when more runs
with the same output follow or went before. -/
theorem generates_exactly (haccepted : file.Accepted) (directory : Path)
    (args : List (String × String)) (tree : FileTree)
    (hadmits : tree.Admits (file.outputPath directory)) :
    let path := file.outputPath directory
    let generation := ((file.generate FileTree.disk directory args).run tree).1
    let after := ((file.generate FileTree.disk directory args).run tree).2
    let annotated := file.unit.annotatedWith functionAnnotation
    (∀ p, p ≠ tree.target path → p ∉ tree.above path → after.get? p = tree.get? p) ∧
    (generation.fatal = none → annotated ≠ [] → ∃ text, file.product args = some text ∧
      after.found? path = some (.file text.toUTF8) ∧
      (∀ p ∈ tree.above path, after.get? p = some .directory) ∧
      generation.effect = .written directory [path] []) ∧
    (generation.fatal ≠ none → after.found? path = none ∧
      generation.effect = .written directory [] [path]) ∧
    (annotated = [] → (∀ p, p ≠ tree.target path → after.get? p = tree.get? p) ∧
      after.found? path = none ∧ generation.effect = .written directory []
        (if (tree.found? path).isSome then [path] else [])) ∧
    (∀ verbose quiet config, ((Command.Line.run FileTree.disk
      ⟨verbose, quiet, .generate config directory args true⟩).run tree).2 = tree) ∧
    ∀ runs : List (ManifestFile × List (String × String)),
      (∀ run ∈ runs, run.1.Accepted ∧ run.1.manifest.output = file.manifest.output) →
      let final := (runs ++ [(file, args)]).foldl (treeAfter directory) tree
      final.found? path = (file.product args).map (fun text => .file text.toUTF8) ∧
        ∀ p, (treeAfter directory final (file, args)).get? p = final.get? p := by
  intro path generation after annotated
  have hname := haccepted.endsInName directory
  have hgenerates : file.Generates args directory tree generation after :=
    generates hname hadmits
  have hframe (p : Place) (hp : p ≠ tree.target path) :=
    hgenerates.get?_of_ne hadmits hp
  have hentry := hgenerates.found? hname hadmits
  refine ⟨fun p hp hmem => (hframe p hp).resolve_right fun h => hmem h.1, fun hfatal hsome => ?_,
    fun hfatal => ?_, fun hnone => ?_, fun verbose quiet config => run_dryRun ..,
    fun runs hruns => ?_⟩
  · obtain ⟨text, hproduct, heffect⟩ := hgenerates.exists_product hsome hfatal
    rw [hproduct] at hentry
    exact ⟨text, hproduct, hentry, (hgenerates.get?_of_annotated hadmits hsome).1, heffect⟩
  · obtain ⟨hproduct, heffect⟩ := hgenerates.effect_of_fatal hfatal
    rw [hproduct] at hentry
    exact ⟨hentry, heffect⟩
  · obtain ⟨hproduct, heffect⟩ := hgenerates.effect_of_not_annotated hnone
    rw [hproduct] at hentry
    exact ⟨fun p hp => (hframe p hp).resolve_right fun h => h.2.1 hnone, hentry, heffect⟩
  · intro final
    have hbefore := foldl_treeAfter_admits hadmits
      fun run hmem => ⟨(hruns run hmem).1, by rw [outputPath, (hruns run hmem).2]; rfl⟩
    have hfinal : final =
        treeAfter directory (runs.foldl (treeAfter directory) tree) (file, args) :=
      List.foldl_append
    rw [hfinal]
    have hlast : file.Generates args directory (runs.foldl (treeAfter directory) tree) _
        (treeAfter directory (runs.foldl (treeAfter directory) tree) (file, args)) :=
      generates hname hbefore
    exact ⟨hlast.found? hname hbefore,
      hlast.again hname hbefore (generates hname (hlast.admits hbefore))⟩

theorem accepted_of_toOption {path : Path} {content : String}
    (h : (ofText path content).toOption = some file) : file.Accepted := by
  refine ⟨path, content, ?_⟩
  cases hfile : ofText path content with
  | error e => rw [hfile] at h; cases h
  | ok found => rw [hfile] at h; cases h; rfl

/-- An empty manifest and then one with a function, below a directory that is not there yet. -/
theorem generates_exactly_after_empty :
    ∃ earlier file : ManifestFile, earlier.Accepted ∧ file.Accepted ∧
      earlier.manifest.output = file.manifest.output ∧
      FileTree.fresh.Admits (file.outputPath ⟨"out"⟩) ∧
      ([(earlier, []), (file, [])].foldl (treeAfter ⟨"out"⟩) .fresh).found?
        (file.outputPath ⟨"out"⟩) =
          some (.file "\nfun first() \x7b\n    println(\"Hello from first\")\n\x7d\n".toUTF8) := by
  have hearlier : (ofText Command.standardConfig "").toOption.map (·.manifest.output) =
      some ⟨"", Location.defaultFile⟩ := by
    decide +kernel
  have hfile : (ofText Command.standardConfig
      ("[[declarations]]\nname = \"First\"\n[[declarations.annotations]]\n" ++
        "name = \"Function\"\narguments.name = \"first\"\n")).toOption.map
          (fun file => (file.manifest.output, file.product [])) =
      some (⟨"", Location.defaultFile⟩,
        some "\nfun first() \x7b\n    println(\"Hello from first\")\n\x7d\n") := by
    decide +kernel
  obtain ⟨earlier, haccepted, hbefore⟩ := Option.map_eq_some_iff.1 hearlier
  obtain ⟨file, haccepted', hvalues⟩ := Option.map_eq_some_iff.1 hfile
  obtain ⟨houtput, hproduct⟩ := Prod.mk.inj hvalues
  have hpath : file.outputPath ⟨"out"⟩ = ⟨"out/GeneratedFunctions.kt"⟩ := by
    rw [outputPath, houtput]
    decide +kernel
  have hadmits : FileTree.fresh.Admits ⟨"out/GeneratedFunctions.kt"⟩ := by
    have habove : FileTree.fresh.above ⟨"out/GeneratedFunctions.kt"⟩ =
        [["work"], ["work", "out"]] := by
      decide +kernel
    refine ⟨⟨by decide +kernel, by decide +kernel, by decide +kernel⟩, rfl, ?_, ?_,
      by decide +kernel⟩
    · rw [habove]
      exact List.forall_mem_cons.2 ⟨fun _ => nofun, List.forall_mem_singleton.2 fun _ => nofun⟩
    · have htarget : FileTree.fresh.target ⟨"out/GeneratedFunctions.kt"⟩ =
          ["work", "out", "GeneratedFunctions.kt"] := by
        decide +kernel
      rw [htarget]
      nofun
  rw [← hpath] at hadmits
  have hhistory := (generates_exactly (accepted_of_toOption haccepted') ⟨"out"⟩ [] .fresh
    hadmits).2.2.2.2.2 [(earlier, [])]
      (List.forall_mem_singleton.2 ⟨accepted_of_toOption haccepted, hbefore.trans houtput.symm⟩)
  refine ⟨earlier, file, accepted_of_toOption haccepted, accepted_of_toOption haccepted',
    hbefore.trans houtput.symm, hadmits, hhistory.1.trans ?_⟩
  rw [hproduct]
  rfl

end ManifestFile

end FunctionForge
