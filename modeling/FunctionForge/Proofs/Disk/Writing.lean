import FunctionForge.Proofs.Disk.Directories

/-!
# Writing a file

A tree that has room for a file at a path takes all that is written to it. What becomes of the tree
is told place by place: the file is there with its text, the places on the way to it are
directories, and all else is as it was.
-/

namespace FunctionForge.FileTree

variable {tree after : FileTree} {path : Path} {text : String}

theorem endsInDirectory_eq_false (h : path.EndsInName) : endsInDirectory path = false := by
  obtain ⟨name, hlast, hempty, hdot, hdots⟩ := h
  rw [endsInDirectory, hlast]
  simp [hempty, hdot, hdots]

/-- What a path leads to, none if it leads to nothing. -/
def found? (tree : FileTree) (path : Path) : Option TreeEntry :=
  match tree.find path with
  | .ok (_, found) => found
  | .error _ => none

theorem found?_of_error {e : DiskError} (h : tree.locate path = .error e) :
    tree.found? path = none := by
  rw [found?, find_of_error h]

theorem found?_of_locate (hname : path.EndsInName) {place : Place}
    (h : tree.locate path = .ok place) : tree.found? path = tree.get? place := by
  rw [found?, find_of_locate h, endsInDirectory_eq_false hname]
  split
  · next hfound =>
    split at hfound
    · next hplace => cases hfound; rw [hplace]
    · cases hfound
      rfl
  · next hfound => split at hfound <;> cases hfound

/-- A tree in which a file can be at a path: the directories on the way are there or nothing is,
and no directory is in the place of the file. Dots may lead a path back, but not through the place
of its own file. -/
structure Admits (tree : FileTree) (path : Path) : Prop where
  fits : Fits path
  origin : tree.get? (tree.origin path) = some .directory
  above : ∀ p ∈ tree.above path, ∀ content, tree.get? p ≠ some (.file content)
  target : tree.get? (tree.target path) ≠ some .directory
  apart : tree.target path ∉ tree.above path

/-- A tree in which a file with a text was written to a path. -/
structure Holds (tree : FileTree) (path : Path) (after : FileTree) (text : String) : Prop where
  current : after.current = tree.current
  above : ∀ p ∈ tree.above path, after.get? p = some .directory
  target : after.get? (tree.target path) = some (.file text.toUTF8)
  others : ∀ p, p ∉ tree.above path → p ≠ tree.target path → after.get? p = tree.get? p

theorem Admits.ne_target (h : tree.Admits path) {p : Place} (hp : p ∈ tree.above path) :
    p ≠ tree.target path := by
  rintro rfl
  exact h.apart hp

theorem Adds.holds {made : FileTree} (hadmits : tree.Admits path)
    (h : tree.Adds made (tree.above path)) :
    tree.Holds path (made.put (tree.target path) (.file .empty)) "" := by
  have hroot := ne_nil_of_get?_ne hadmits.target
  refine ⟨h.current, fun p hp => ?_, ?_, fun p hp hplace => ?_⟩
  · rw [get?_put made _ p hroot, if_neg (hadmits.ne_target hp), h.directory p hp]
  · rw [get?_put made _ _ hroot, if_pos rfl]
    rfl
  · rw [get?_put made _ p hroot, if_neg hplace, h.others p hp]

namespace Holds

variable (hadmits : tree.Admits path) (hname : path.EndsInName)

include hadmits hname in
theorem locate (h : tree.Holds path after text) : after.locate path = .ok (tree.target path) := by
  obtain ⟨parent, hparent⟩ := hname.exists_parent
  rw [locate_eq_ok_iff, above_eq h.current, target_eq h.current]
  exact ⟨hadmits.fits, Path.text_ne_empty_of_parent? hparent, h.above, rfl⟩

include hadmits hname in
theorem append (h : tree.Holds path after text) (more : String) : ∃ next,
    (disk.append path more).run after = (.ok (), next) ∧
      tree.Holds path next (text ++ more) := by
  have hroot := ne_nil_of_get?_ne hadmits.target
  refine ⟨after.put (tree.target path) (.file (text.toUTF8 ++ more.toUTF8)), ?_, ?_⟩
  · rw [run_append_eq_ok_iff]
    exact ⟨_, _, h.locate hadmits hname, h.target, endsInDirectory_eq_false hname, rfl⟩
  · refine ⟨h.current, fun p hp => ?_, ?_, fun p hp hplace => ?_⟩
    · rw [get?_put after _ p hroot, if_neg (hadmits.ne_target hp), h.above p hp]
    · rw [get?_put after _ _ hroot, if_pos rfl]
      exact congrArg (fun content => some (TreeEntry.file content)) String.toByteArray_append.symm
    · rw [get?_put after _ p hroot, if_neg hplace, h.others p hp hplace]

include hadmits hname in
theorem found? (h : tree.Holds path after text) :
    after.found? path = some (.file text.toUTF8) := by
  rw [found?_of_locate hname (h.locate hadmits hname), h.target]

include hadmits hname in
theorem remove (h : tree.Holds path after text) :
    after.remove path = .ok (after.delete (tree.target path)) :=
  remove_eq_ok_iff.2
    ⟨_, _, h.locate hadmits hname, h.target, endsInDirectory_eq_false hname, rfl⟩

end Holds

section Admits

variable (hadmits : tree.Admits path) (hname : path.EndsInName)

include hadmits hname

theorem grows : FileOutput.Grows disk path (tree.Holds path) False where
  accepted {state next before text} hholds h := by
    obtain ⟨changed, happend, hchanged⟩ := hholds.append hadmits hname text
    rw [happend] at h
    cases h
    exact hchanged
  refused {state next before text e} hholds h := by
    obtain ⟨changed, happend, -⟩ := hholds.append hadmits hname text
    rw [happend] at h
    cases h

/-- The entry at a path is taken away if it is there, and else nothing is done. -/
theorem remove_cases :
    (tree.found? path = none ∧ tree.remove path = .error .notFound) ∨
    (∃ content, tree.found? path = some (.file content) ∧
      tree.locate path = .ok (tree.target path) ∧
      tree.remove path = .ok (tree.delete (tree.target path))) := by
  obtain ⟨parent, hparent⟩ := hname.exists_parent
  have hnonempty := Path.text_ne_empty_of_parent? hparent
  by_cases habove : ∀ p ∈ tree.above path, tree.get? p = some .directory
  · have hlocate : tree.locate path = .ok (tree.target path) :=
      locate_eq_ok_iff.2 ⟨hadmits.fits, hnonempty, habove, rfl⟩
    rw [found?_of_locate hname hlocate]
    cases hplace : tree.get? (tree.target path) with
    | none =>
      refine .inl ⟨rfl, ?_⟩
      rw [remove, find_of_locate hlocate, hplace]
      rfl
    | some entry =>
      cases entry with
      | directory => exact absurd hplace hadmits.target
      | file content =>
        exact .inr ⟨content, rfl, hlocate,
          remove_eq_ok_iff.2 ⟨_, content, hlocate, hplace, endsInDirectory_eq_false hname, rfl⟩⟩
  · -- With a directory missing on the way, the walk itself ends.
    have hlocate : tree.locate path = .error .notFound := by
      rw [locate_eq_walk hadmits.fits hnonempty]
      exact walk_eq_notFound hadmits.fits.names hadmits.above
        (exists_missing habove hadmits.above)
    refine .inl ⟨found?_of_error hlocate, ?_⟩
    rw [remove, find_of_error hlocate]
    rfl

end Admits

theorem found?_delete {place : Place} (hname : path.EndsInName)
    (hlocate : tree.locate path = .ok place) (hplace : tree.get? place ≠ some .directory) :
    (tree.delete place).found? path = none := by
  have hroot := ne_nil_of_get?_ne hplace
  have hdeleted : (tree.delete place).locate path = .ok place := by
    refine locate_of_keeps hlocate rfl fun p _ hp => ?_
    rw [get?_delete tree p hroot, if_neg, hp]
    rintro rfl
    exact hplace hp
  rw [found?_of_locate hname hdeleted, get?_delete tree place hroot, if_pos rfl]

/-- A tree with room for a file accepts all texts for it. -/
theorem exists_accepts {root : Path} {location : Location}
    (hadmits : tree.Admits (root.join location.relativePath))
    (hname : (root.join location.relativePath).EndsInName) (texts : List String) :
    ∃ final, FileOutput.Accepts disk root location texts tree final ∧
      tree.Holds (root.join location.relativePath) final (String.join texts) := by
  obtain ⟨parent, hparent⟩ := hname.exists_parent
  obtain ⟨made, hmade, hadds⟩ := run_makeParent hadmits.fits hname.isTrimmed hparent
    hadmits.origin hadmits.above
  have hnonempty := Path.text_ne_empty_of_parent? hparent
  have hlocate : made.locate (root.join location.relativePath) =
      .ok (tree.target (root.join location.relativePath)) := by
    rw [locate_eq_ok_iff, above_eq hadds.current, target_eq hadds.current]
    exact ⟨hadmits.fits, hnonempty, hadds.directory, rfl⟩
  have hfree : made.get? (tree.target (root.join location.relativePath)) ≠ some .directory := by
    rw [hadds.others _ hadmits.apart]
    exact hadmits.target
  have hcreate := run_create_eq_ok_iff.2
    ⟨_, hlocate, hfree, endsInDirectory_eq_false hname, rfl⟩
  have hopen := FileOutput.run_openFile_eq_ok_iff.2 ⟨rfl, made, hmade, hcreate⟩
  obtain ⟨sent, closing, _, _, _, final, -, -, -, hok, hrefused⟩ :=
    FileOutput.exists_run_of_opened (grows hadmits hname) hopen (hadds.holds hadmits) texts
  obtain ⟨hsent, hclosing⟩ := Classical.not_not.1 hrefused
  exact ⟨final, hok hsent hclosing⟩

end FunctionForge.FileTree
