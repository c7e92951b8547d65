import FunctionForge.Proofs.Manifest.Effect
import FunctionForge.Proofs.Manifest.Failure

/-!
# Generated files stay below the output directory

The path of a generated file leads from the output directory further down, by the names of its
package and its file. Each request to the disk is about that file or about a directory on the way to
it, so other files are as they were, however the requests end.
-/

namespace FunctionForge

namespace FileTree

/-! ### Where the components of a path lead -/

/-- The place that a component leads to. -/
def follow (place : Place) : Path.Component → Place
  | .root => []
  | .current => place
  | .parent => place.dropLast
  | .name s => place ++ [s]

theorem next_ofList (place : Place) {piece : List Char} (hpiece : piece ≠ []) :
    next place (String.ofList piece) =
      ((Path.innerComponent? piece).map (follow place)).getD place := by
  by_cases hcurrent : piece = ['.']
  · rw [hcurrent]
    rfl
  by_cases hparent : piece = ['.', '.']
  · rw [hparent]
    rfl
  have hcurrent' : String.ofList piece ≠ "." := fun h => hcurrent (String.ofList_inj.1 h)
  have hparent' : String.ofList piece ≠ ".." := fun h => hparent (String.ofList_inj.1 h)
  rw [next, if_neg hcurrent', if_neg hparent',
    Path.innerComponent?_of_ne hpiece hcurrent hparent]
  rfl

/-- Pieces lead where their components do. -/
theorem advance_pieces (place : Place) (pieces : List (List Char)) :
    advance place ((pieces.filter (· ≠ [])).map String.ofList) =
      (pieces.filterMap Path.innerComponent?).foldl follow place := by
  induction pieces generalizing place with
  | nil => rfl
  | cons piece rest ih =>
    by_cases hpiece : piece = []
    · rw [hpiece]
      exact ih place
    · have hstep := next_ofList place hpiece
      rw [List.filter_cons_of_pos (by simpa using hpiece), List.map_cons, advance, List.foldl_cons,
        hstep, ← advance, ih]
      cases hcomponent : Path.innerComponent? piece with
      | none => rw [List.filterMap_cons_none hcomponent]; rfl
      | some component => rw [List.filterMap_cons_some hcomponent]; rfl

theorem foldl_follow_names (place : Place) (names : List String) :
    (names.map Path.Component.name).foldl follow place = place ++ names := by
  induction names generalizing place with
  | nil => exact (List.append_nil place).symm
  | cons name rest ih =>
    rw [List.map_cons, List.foldl_cons, ih, follow, List.append_assoc]
    rfl

/-- Paths with the same components lead to the same place. -/
theorem target_eq_foldl (tree : FileTree) (path : Path) :
    tree.target path = path.components.foldl follow tree.current := by
  rw [target, steps, advance_pieces, origin]
  obtain ⟨habsolute, rest, hpieces, hroot⟩ | ⟨habsolute, rest, hpieces, hcurrent⟩ |
    ⟨habsolute, hplain⟩ := path.components_cases
  · rw [habsolute, hpieces, hroot]
    rfl
  · rw [habsolute, hpieces, hcurrent]
    rfl
  · rw [habsolute, hplain]
    rfl

/-- A path of names leads further down. -/
theorem target_join (tree : FileTree) (base : Path) {path : Path} {names : List String}
    (h : path.components = names.map .name) :
    tree.target (base.join path) = tree.target base ++ names := by
  rw [target_eq_foldl, Path.components_join base h, List.foldl_append, foldl_follow_names,
    ← target_eq_foldl]

/-! ### Changes to one file -/

/-- A tree that differs at one place, and at directories that were made where nothing was. -/
structure ChangesOnly (tree : FileTree) (place : Place) (after : FileTree) : Prop where
  current : after.current = tree.current
  others (p : Place) (hp : p ≠ place) :
    after.get? p = tree.get? p ∨ tree.get? p = none ∧ after.get? p = some .directory

namespace ChangesOnly

variable {tree between after : FileTree} {place : Place} {path : Path}

theorem refl (tree : FileTree) (place : Place) : tree.ChangesOnly place tree :=
  ⟨rfl, fun _ _ => .inl rfl⟩

theorem trans (h : tree.ChangesOnly place between) (h' : between.ChangesOnly place after) :
    tree.ChangesOnly place after :=
  ⟨h'.current.trans h.current, fun p hp => sameOrMade_trans (h.others p hp) (h'.others p hp)⟩

/-- What is about the file at a path goes on with what is about it afterwards. -/
theorem step (h : tree.ChangesOnly (tree.target path) between)
    (h' : between.ChangesOnly (between.target path) after) :
    tree.ChangesOnly (tree.target path) after :=
  h.trans (target_eq h.current path ▸ h')

theorem of_extends (h : tree.Extends after) (place : Place) : tree.ChangesOnly place after :=
  ⟨h.current, fun p _ => h.places p⟩

theorem of_put (entry : TreeEntry) (hroot : place ≠ []) :
    tree.ChangesOnly place (tree.put place entry) :=
  ⟨rfl, fun p hp => .inl (by rw [get?_put tree entry p hroot, if_neg hp])⟩

theorem of_write {content : ByteArray} (h : tree.write path content = .ok after) :
    tree.ChangesOnly (tree.target path) after := by
  obtain ⟨place, hlocate, hplace, -, rfl⟩ := write_eq_ok_iff.1 h
  obtain ⟨-, -, -, rfl⟩ := locate_eq_ok_iff.1 hlocate
  exact of_put _ (ne_nil_of_get?_ne hplace)

theorem of_append {content : ByteArray} (h : tree.append path content = .ok after) :
    tree.ChangesOnly (tree.target path) after := by
  obtain ⟨place, before, hlocate, hplace, -, rfl⟩ := append_eq_ok_iff.1 h
  obtain ⟨-, -, -, rfl⟩ := locate_eq_ok_iff.1 hlocate
  have hroot := ne_nil_of_get?_ne (hplace ▸ nofun : tree.get? (tree.target path) ≠ some .directory)
  exact of_put _ hroot

theorem of_remove (h : tree.remove path = .ok after) :
    tree.ChangesOnly (tree.target path) after := by
  obtain ⟨place, content, hlocate, hplace, -, rfl⟩ := remove_eq_ok_iff.1 h
  obtain ⟨-, -, -, rfl⟩ := locate_eq_ok_iff.1 hlocate
  have hroot := ne_nil_of_get?_ne (hplace ▸ nofun : tree.get? (tree.target path) ≠ some .directory)
  exact ⟨rfl, fun p hp => .inl (by rw [get?_delete tree p hroot, if_neg hp])⟩

/-- Files at other places are the same. -/
theorem get?_eq_file_iff (h : tree.ChangesOnly place after) {p : Place} (hp : p ≠ place)
    (content : ByteArray) :
    after.get? p = some (.file content) ↔ tree.get? p = some (.file content) :=
  eq_file_iff_of_sameOrMade (h.others p hp) content

end ChangesOnly

namespace Faulty

variable {σ : Type} {disk : Disk (StateM σ)} {tree : σ → FileTree} (hdisk : Faulty disk tree)
  {path : Path} {state next : σ} {result : Except DiskError Unit}

include hdisk

theorem changesOnly_append {text : String}
    (h : (disk.append path text).run state = (result, next)) :
    (tree state).ChangesOnly ((tree state).target path) (tree next) := by
  have happend := hdisk.append path text state
  rw [h] at happend
  obtain ⟨-, happend⟩ | ⟨-, hsame⟩ := happend
  · exact .of_append happend
  · exact hsame ▸ .refl _ _

theorem changesOnly_remove (h : (disk.remove path).run state = (result, next)) :
    (tree state).ChangesOnly ((tree state).target path) (tree next) := by
  have hremove := hdisk.remove path state
  rw [h] at hremove
  change (result, tree next) = (request (·.remove path)).run (tree state) at hremove
  cases hremoved : (tree state).remove path with
  | ok after =>
    rw [run_request_eq_ok_iff.2 hremoved] at hremove
    exact (Prod.mk.inj hremove).2 ▸ .of_remove hremoved
  | error e =>
    rw [run_request_of_error hremoved] at hremove
    exact (Prod.mk.inj hremove).2 ▸ .refl _ _

/-- Appending, whether it works or not, is about the file that is open. -/
theorem endures_changesOnly (start : FileTree) (path : Path) :
    FileOutput.Endures disk path fun state _ =>
      start.ChangesOnly (start.target path) (tree state) where
  accepted hstart h := hstart.step (hdisk.changesOnly_append h)
  refused hstart h := hstart.step (hdisk.changesOnly_append h)

theorem changesOnly_of_opened {root : Path} {location : Location} {start next : σ}
    {output : FileOutput}
    (h : (((FileOutput.sink disk root).openFile location).run .empty).run start =
      ((.ok (), output), next)) :
    (tree start).ChangesOnly ((tree start).target (root.join location.relativePath))
      (tree next) := by
  obtain ⟨-, between, hextends, hwrite⟩ := hdisk.write_of_opened h
  exact (ChangesOnly.of_extends hextends _).step (.of_write hwrite)

theorem changesOnly_removeFiles {start : FileTree} {path : Path} {paths : List Path}
    (hpaths : ∀ other ∈ paths, other = path) {state : σ}
    (h : start.ChangesOnly (start.target path) (tree state)) :
    start.ChangesOnly (start.target path) (tree ((disk.removeFiles paths).run state).2) := by
  induction paths generalizing state with
  | nil => exact h
  | cons other rest ih =>
    obtain ⟨rfl, hrest⟩ := List.forall_mem_cons.1 hpaths
    rcases hrun : (disk.remove other).run state with ⟨result, between⟩
    have hlater := ih hrest (h.step (hdisk.changesOnly_remove hrun))
    rcases hrun' : (disk.removeFiles rest).run between with ⟨⟨removed, log⟩, next⟩
    rw [hrun'] at hlater
    rw [Disk.removeFiles, run_bind_of_run_eq hrun, run_bind_of_run_eq hrun']
    exact hlater

end Faulty

end FileTree

namespace ManifestFile

variable {σ : Type} {disk : Disk (StateM σ)} {tree : σ → FileTree} {file : ManifestFile}
  {directory : Path} {args : List (String × String)} {start late : σ} {pass : PassReport}
  {output : FileOutput}

/-- A pass changes its file only, and that is the one that it may tell to have generated. -/
theorem changesOnly_of_pass (hdisk : FileTree.Faulty disk tree)
    (hrun : ((file.runPass (FileOutput.sink disk directory) args).run .empty).run start =
      ((pass, output), late)) :
    (tree start).ChangesOnly ((tree start).target (file.outputPath directory)) (tree late) ∧
      ∀ path ∈ output.generated, path = file.outputPath directory := by
  by_cases hannotated : file.annotated = []
  · rw [runPass_of_not_annotated _ _ hannotated] at hrun
    cases hrun
    exact ⟨.refl _ _, nofun⟩
  rcases hopen : (file.opening disk directory).run start with ⟨⟨answer, opened⟩, between⟩
  cases answer with
  | error e =>
    obtain ⟨rfl, hextends⟩ := hdisk.extends_of_unopened hopen
    rw [run_runPass_of_unopened args hannotated hopen] at hrun
    cases hrun
    exact ⟨.of_extends hextends _, nofun⟩
  | ok =>
    obtain ⟨rfl, -⟩ := hdisk.reads_of_opened hopen
    have hopened := hdisk.changesOnly_of_opened hopen
    have hendures := hdisk.endures_changesOnly (tree start) (file.outputPath directory)
    have hnothing : FileOutput.Keeps (fun state _ => (tree start).ChangesOnly
        ((tree start).target (file.outputPath directory)) (tree state)) "" "" between :=
      .of_holds hopened
    obtain ⟨sent, left, taken, rest, middle, hsend, -, hkeeps, -⟩ :=
      hendures.run_writeEach hnothing (file.texts args)
    obtain ⟨answer, closed, last, hclose, hok, herror⟩ :=
      FileOutput.Endures.run_close hendures hkeeps.of_heldAfter
    rw [run_runPass_of_opened hannotated hopen hsend hclose] at hrun
    obtain ⟨hpass, rfl⟩ := Prod.mk.inj hrun
    obtain ⟨-, rfl⟩ := Prod.mk.inj hpass
    by_cases hanswer : answer = .ok ()
    · obtain ⟨rfl, hlast⟩ := hok hanswer
      exact ⟨hlast, List.forall_mem_singleton.2 rfl⟩
    · obtain ⟨rfl, -, -, hlast, -⟩ := herror hanswer
      exact ⟨hlast, nofun⟩

theorem changesOnly_generate (hdisk : FileTree.Faulty disk tree) (file : ManifestFile)
    (directory : Path) (args : List (String × String)) (start : σ) :
    (tree start).ChangesOnly ((tree start).target (file.outputPath directory))
      (tree ((file.generate disk directory args).run start).2) := by
  rcases hrun : ((file.runPass (FileOutput.sink disk directory) args).run .empty).run start with
    ⟨⟨pass, output⟩, late⟩
  obtain ⟨hpass, hgenerated⟩ := changesOnly_of_pass hdisk hrun
  have hstale : ∀ path ∈ file.stale directory pass output.generated,
      path = file.outputPath directory := by
    rw [stale]
    split
    · exact hgenerated
    · split
      · exact List.forall_mem_singleton.2 rfl
      · exact fun path hmem => absurd hmem List.not_mem_nil
  have hremoved := hdisk.changesOnly_removeFiles hstale hpass
  rcases hremove : (disk.removeFiles (file.stale directory pass output.generated)).run late with
    ⟨⟨removed, log⟩, final⟩
  rw [hremove] at hremoved
  rw [run_generate hrun hremove]
  exact hremoved

theorem Accepted.components (h : file.Accepted) :
    file.location.relativePath.components = file.location.names.map .name ∧
      ∀ name ∈ file.location.names, Path.IsFileName name :=
  ⟨Location.components_relativePath h.valid.outputPackage h.valid.outputFile.2,
    Location.isFileName_of_mem_names h.valid.outputPackage h.valid.outputFile.2⟩

/-- The path of a generated file adds the segments of the output package and the name of the file to
the output directory, and no other output has that path. On a disk without links, generating keeps
every file that is not below the output directory as it is. -/
theorem generates_below (haccepted : file.Accepted) :
    let path := file.manifest.output.location.relativePath
    let names := (if file.manifest.output.package = "" then []
      else Text.segments file.manifest.output.package) ++ [file.manifest.output.file ++ ".kt"]
    path.isAbsolute = false ∧ path.components = names.map .name ∧
    (∀ name ∈ names, name ≠ "" ∧ name ≠ "." ∧ name ≠ ".." ∧ '/' ∉ name.toList ∧
      (Path.mk name).isAbsolute = false) ∧
    (∀ directory : Path, (directory.join path).components =
      directory.components ++ names.map .name) ∧
    (∀ other : ManifestFile, other.Accepted →
      path.sameAs other.manifest.output.location.relativePath →
        other.manifest.output = file.manifest.output) ∧
    ∀ (σ : Type) (disk : Disk (StateM σ)) (tree : σ → FileTree), FileTree.Faulty disk tree →
      ∀ (directory : Path) (args : List (String × String)) (start : σ),
        let after := tree ((file.generate disk directory args).run start).2
        let output := (tree start).target directory
        (∀ p, p ≠ output ++ names → after.get? p = (tree start).get? p ∨
          (tree start).get? p = none ∧ after.get? p = some .directory) ∧
        ∀ p, ¬output <+: p → ∀ content, after.get? p = some (.file content) ↔
          (tree start).get? p = some (.file content) := by
  intro path names
  have hlocation : file.location.names = names := by
    have hextension : "." ++ Location.standardExtension = ".kt" := rfl
    rw [Location.names, location, OutputSection.location, Location.new, String.append_assoc,
      hextension]
    rfl
  obtain ⟨hcomponents, hnames⟩ : path.components = names.map .name ∧
      ∀ name ∈ names, Path.IsFileName name := hlocation ▸ haccepted.components
  refine ⟨(Path.components_of_names hcomponents).1, hcomponents, fun name hmem => ?_,
    fun directory => Path.components_join directory hcomponents, fun other hother hsame => ?_,
    fun σ disk tree hdisk directory args start => ?_⟩
  · have hname := hnames name hmem
    exact ⟨hname.ne_empty, hname.ne_current, hname.ne_parent, hname.noSlash, hname.not_isAbsolute⟩
  · have hnames : file.location.names.map Path.Component.name =
        other.location.names.map Path.Component.name := by
      rw [← haccepted.components.1, ← hother.components.1]
      exact of_decide_eq_true hsame
    have hinjective : Function.Injective Path.Component.name := fun _ _ => Path.Component.name.inj
    obtain ⟨hpackage, hfile⟩ := Location.names_inj (List.map_injective_iff.2 hinjective hnames)
    exact congrArg₂ OutputSection.mk hpackage.symm hfile.symm
  · intro after output
    have hchanges := changesOnly_generate hdisk file directory args start
    have htarget : (tree start).target (file.outputPath directory) = output ++ names :=
      FileTree.target_join (tree start) directory hcomponents
    rw [htarget] at hchanges
    refine ⟨hchanges.others, fun p hp => hchanges.get?_eq_file_iff ?_⟩
    rintro rfl
    exact hp (List.prefix_append output names)

/-- A file beside the output directory stays as it is, here with a disk that is full. -/
theorem generates_below_beside_file :
    let tree : FileTree := ⟨[(["work"], .directory), (["work", "kept"], .file "kept".toUTF8)],
      ["work"]⟩
    ∃ file : ManifestFile, file.Accepted ∧
      file.manifest.output.location.relativePath.components =
        [.name "app", .name "made", .name "Functions.kt"] ∧
      ((file.generate FileTree.fullDisk ⟨"out"⟩ []).run tree).2.get? ["work", "kept"] =
        some (.file "kept".toUTF8) := by
  intro tree
  have hfile : (ofText Command.standardConfig
      ("[output]\npackage = \"app.made\"\nfile = \"Functions\"\n[[declarations]]\n" ++
        "name = \"First\"\n[[declarations.annotations]]\n" ++
        "name = \"Function\"\narguments.name = \"first\"\n")).toOption.map
          (·.manifest.output) = some ⟨"app.made", "Functions"⟩ := by
    decide +kernel
  obtain ⟨file, hread, houtput⟩ := Option.map_eq_some_iff.1 hfile
  have haccepted := accepted_of_toOption hread
  obtain ⟨-, hcomponents, -, -, -, heffect⟩ := generates_below haccepted
  obtain ⟨-, hbeside⟩ :=
    heffect FileTree FileTree.fullDisk id FileTree.faulty_fullDisk ⟨"out"⟩ [] tree
  have hplace : ¬(FileTree.target (id tree) ⟨"out"⟩) <+: ["work", "kept"] := by decide +kernel
  refine ⟨file, haccepted, ?_, (hbeside _ hplace _).2 rfl⟩
  rw [hcomponents, houtput]
  decide +kernel

end ManifestFile

end FunctionForge
