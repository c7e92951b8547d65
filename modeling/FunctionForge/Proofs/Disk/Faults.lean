import FunctionForge.Proofs.Disk.Walk
import FunctionForge.Proofs.Output.File

/-!
# Disks that fail at will

Any request to make something may fail, in which case nothing changes, and else it does what it does
to a tree. Only removing is certain. Opening a file then can go wrong after directories were made,
but it never touches a file unless it succeeds.
-/

namespace FunctionForge.FileTree

/-- A request does what a change does to the tree, or fails and leaves the tree as it was. -/
def Tries {σ : Type} (tree : σ → FileTree) (request : StateM σ (Except DiskError Unit))
    (change : FileTree → Except DiskError FileTree) : Prop :=
  ∀ state, ((request.run state).1 = .ok () ∧
      change (tree state) = .ok (tree (request.run state).2)) ∨
    (∃ e, (request.run state).1 = .error e) ∧ tree (request.run state).2 = tree state

/-- A disk whose states hold a tree. What is to be made may fail to be made, but what is to be
removed is removed. -/
structure Faulty {σ : Type} (disk : Disk (StateM σ)) (tree : σ → FileTree) : Prop where
  isDirectory (path : Path) (state : σ) : tree ((disk.isDirectory path).run state).2 = tree state
  makeDirectory (path : Path) : Tries tree (disk.makeDirectory path) (·.makeDirectory path)
  create (path : Path) : Tries tree (disk.create path) (·.write path .empty)
  append (path : Path) (text : String) :
    Tries tree (disk.append path text) (·.append path text.toUTF8)
  remove (path : Path) (state : σ) :
    (((disk.remove path).run state).1, tree ((disk.remove path).run state).2) =
      (FileTree.disk.remove path).run (tree state)

section Entries

variable {old between entry : Option TreeEntry}

/-- Directories that are made where nothing is stay. -/
theorem sameOrMade_trans (h : between = old ∨ old = none ∧ between = some .directory)
    (h' : entry = between ∨ between = none ∧ entry = some .directory) :
    entry = old ∨ old = none ∧ entry = some .directory := by
  obtain rfl | ⟨rfl, hmade⟩ := h'
  · exact h
  · obtain rfl | ⟨-, hdirectory⟩ := h
    · exact .inr ⟨rfl, hmade⟩
    · cases hdirectory

theorem eq_file_iff_of_sameOrMade (h : entry = old ∨ old = none ∧ entry = some .directory)
    (content : ByteArray) : entry = some (.file content) ↔ old = some (.file content) := by
  obtain rfl | ⟨rfl, rfl⟩ := h
  · rfl
  · exact ⟨nofun, nofun⟩

end Entries

/-- A tree with more directories, each where nothing was. -/
structure Extends (tree after : FileTree) : Prop where
  current : after.current = tree.current
  places (p : Place) :
    after.get? p = tree.get? p ∨ tree.get? p = none ∧ after.get? p = some .directory

namespace Extends

variable {tree between after : FileTree}

theorem refl (tree : FileTree) : tree.Extends tree := ⟨rfl, fun _ => .inl rfl⟩

theorem trans (h : tree.Extends between) (h' : between.Extends after) : tree.Extends after :=
  ⟨h'.current.trans h.current, fun p => sameOrMade_trans (h.places p) (h'.places p)⟩

theorem of_makeDirectory {path : Path} (h : tree.makeDirectory path = .ok after) :
    tree.Extends after := by
  rw [makeDirectory] at h
  cases hlocate : tree.locate path with
  | error e =>
    rw [hlocate] at h
    cases h
  | ok place =>
    simp only [hlocate, bind, Except.bind] at h
    cases hplace : tree.get? place with
    | some entry =>
      rw [hplace] at h
      cases h
    | none =>
      rw [hplace] at h
      cases h
      have hroot : place ≠ [] := ne_nil_of_get?_ne (by rw [hplace]; nofun)
      refine ⟨rfl, fun p => ?_⟩
      rw [get?_put tree _ p hroot]
      by_cases hp : p = place
      · rw [if_pos hp, hp]
        exact .inr ⟨hplace, rfl⟩
      · rw [if_neg hp]
        exact .inl rfl

/-- The files are the same. -/
theorem get?_eq_file_iff (h : tree.Extends after) (p : Place) (content : ByteArray) :
    after.get? p = some (.file content) ↔ tree.get? p = some (.file content) :=
  eq_file_iff_of_sameOrMade (h.places p) content

end Extends

namespace Tries

variable {σ : Type} {tree : σ → FileTree} {request : StateM σ (Except DiskError Unit)}
  {change : FileTree → Except DiskError FileTree} {state next : σ}

theorem of_ok (h : Tries tree request change) (hrun : request.run state = (.ok (), next)) :
    change (tree state) = .ok (tree next) := by
  obtain ⟨-, hchange⟩ | ⟨⟨e, herror⟩, -⟩ := h state
  · rwa [hrun] at hchange
  · rw [hrun] at herror
    cases herror

theorem of_error {e : DiskError} (h : Tries tree request change)
    (hrun : request.run state = (.error e, next)) : tree next = tree state := by
  obtain ⟨hok, -⟩ | ⟨-, hsame⟩ := h state
  · rw [hrun] at hok
    cases hok
  · rwa [hrun] at hsame

end Tries

namespace Faulty

variable {σ : Type} {disk : Disk (StateM σ)} {tree : σ → FileTree} (hdisk : Faulty disk tree)
  {path : Path}

include hdisk

theorem makeDirectory_extends (path : Path) (state : σ) :
    (tree state).Extends (tree ((disk.makeDirectory path).run state).2) := by
  obtain ⟨-, hmake⟩ | ⟨-, hsame⟩ := hdisk.makeDirectory path state
  · exact .of_makeDirectory hmake
  · exact hsame ▸ .refl _

/-- Settling a failure only looks. -/
theorem tree_settle (path : Path) (result : Except DiskError Unit) (state : σ) :
    tree ((disk.settle path result).run state).2 = tree state := by
  rw [Disk.settle.eq_def]
  split
  · exact hdisk.isDirectory path state
  · rfl

theorem makeFirst_extends (paths : List Path) (state : σ) :
    (tree state).Extends (tree ((disk.makeFirst paths).run state).2) := by
  induction paths generalizing state with
  | nil => exact .refl _
  | cons path above ih =>
    have hmake := hdisk.makeDirectory_extends path state
    rcases hrun : (disk.makeDirectory path).run state with ⟨result, between⟩
    rw [hrun] at hmake
    rw [Disk.makeFirst, run_bind_of_run_eq hrun]
    split
    · have habove := hmake.trans (ih between)
      rcases hrun' : (disk.makeFirst above).run between with ⟨result, middle⟩
      rw [hrun'] at habove
      rw [run_bind_of_run_eq hrun']
      cases result with
      | error e => exact habove
      | ok =>
        have hagain := habove.trans (hdisk.makeDirectory_extends path middle)
        rcases hrun'' : (disk.makeDirectory path).run middle with ⟨result, last⟩
        rw [hrun''] at hagain
        simp only
        rw [run_bind_of_run_eq hrun'', hdisk.tree_settle]
        exact hagain
    · rw [hdisk.tree_settle]
      exact hmake

theorem makeParent_extends (path : Path) (state : σ) :
    (tree state).Extends (tree ((FileOutput.makeParent disk path).run state).2) := by
  rw [FileOutput.makeParent]
  split
  · exact .refl _
  · next parent _ =>
    have hmake := hdisk.makeFirst_extends parent.named state
    rcases hrun : (disk.makeDirectories parent).run state with ⟨result, next⟩
    rw [run_bind_of_run_eq hrun]
    rw [show (disk.makeFirst parent.named).run state = (result, next) from hrun] at hmake
    exact hmake

/-- A file that could not be opened was not touched either. -/
theorem extends_of_unopened {root : Path} {location : Location} {start next : σ} {e : WriteError}
    {output : FileOutput}
    (h : (((FileOutput.sink disk root).openFile location).run .empty).run start =
      ((.error e, output), next)) :
    output = .empty ∧ (tree start).Extends (tree next) := by
  change (FileOutput.openFile disk root .empty location).run start = _ at h
  have hparent := hdisk.makeParent_extends (root.join location.relativePath) start
  rcases hrun : (FileOutput.makeParent disk (root.join location.relativePath)).run start with
    ⟨result, between⟩
  rw [hrun] at hparent
  rw [FileOutput.openFile, run_bind_of_run_eq hrun] at h
  cases result with
  | error e =>
    cases h
    exact ⟨rfl, hparent⟩
  | ok =>
    rcases hcreate : (disk.create (root.join location.relativePath)).run between with
      ⟨result, last⟩
    simp only at h
    rw [run_bind_of_run_eq hcreate] at h
    cases result with
    | ok => cases h
    | error e =>
      cases h
      exact ⟨rfl, (hdisk.create _).of_error hcreate ▸ hparent⟩

/-- A file that was opened was emptied below directories that were there or made. -/
theorem write_of_opened {root : Path} {location : Location} {start next : σ} {output : FileOutput}
    (h : (((FileOutput.sink disk root).openFile location).run .empty).run start =
      ((.ok (), output), next)) :
    output = ⟨[], some (root.join location.relativePath, "")⟩ ∧
      ∃ between, (tree start).Extends between ∧
        between.write (root.join location.relativePath) .empty = .ok (tree next) := by
  obtain ⟨houtput, between, hparent, hcreate⟩ := FileOutput.run_openFile_eq_ok_iff.1 h
  have hextends := hdisk.makeParent_extends (root.join location.relativePath) start
  rw [hparent] at hextends
  exact ⟨houtput, tree between, hextends, (hdisk.create _).of_ok hcreate⟩

end Faulty

theorem tries_request (change : FileTree → Except DiskError FileTree) :
    Tries id (request change) change := by
  intro tree
  cases hchange : change tree with
  | ok after => exact .inl (by rw [run_request_eq_ok_iff.2 hchange]; exact ⟨rfl, hchange⟩)
  | error e => exact .inr (by rw [run_request_of_error hchange]; exact ⟨⟨e, rfl⟩, rfl⟩)

/-- A tree is a disk on which only that fails which has to. -/
theorem faulty_disk : Faulty disk id where
  isDirectory _ _ := rfl
  makeDirectory _ := tries_request _
  create _ := tries_request _
  append _ _ := tries_request _
  remove _ _ := rfl

/-- A disk with room for names and not for texts. -/
def fullDisk : Disk (StateM FileTree) :=
  { disk with append := fun _ _ => pure (.error (.other "No space left on device (os error 28)")) }

theorem faulty_fullDisk : Faulty fullDisk id where
  isDirectory _ _ := rfl
  makeDirectory _ := tries_request _
  create _ := tries_request _
  append _ _ _ := .inr ⟨⟨_, rfl⟩, rfl⟩
  remove _ _ := rfl

end FunctionForge.FileTree
