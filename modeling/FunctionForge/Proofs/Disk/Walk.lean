import FunctionForge.Disk.Tree

/-!
# Walking a tree

Where a path leads is told by the path, and by the directory that relative paths start from. The
tree only tells whether the directories on the way are there. So a change that keeps those
directories does not change where the path leads.
-/

namespace FunctionForge.FileTree

/-- The place that a step leads to. -/
def next (place : Place) (step : String) : Place :=
  if step = "." then place
  else if step = ".." then place.dropLast
  else place ++ [step]

def advance (place : Place) (steps : List String) : Place := steps.foldl next place

/-- The places that the steps start from. -/
def passed (place : Place) : List String → List Place
  | [] => []
  | step :: rest => place :: passed (next place step) rest

theorem passed_append (place : Place) (first second : List String) :
    passed place (first ++ second) = passed place first ++ passed (advance place first) second := by
  induction first generalizing place with
  | nil => rfl
  | cons step rest ih =>
    rw [List.cons_append, passed, ih, passed, List.cons_append]
    rfl

/-- The place that a path starts from. -/
def origin (tree : FileTree) (path : Path) : Place := if path.isAbsolute then [] else tree.current

/-- The place that a path leads to, whether it can be reached or not. -/
def target (tree : FileTree) (path : Path) : Place := advance (tree.origin path) (steps path)

/-- The places on the way of a path, all of which have to be directories. -/
def above (tree : FileTree) (path : Path) : List Place := passed (tree.origin path) (steps path)

section Current

variable {tree changed : FileTree} (h : changed.current = tree.current) (path : Path)

include h

theorem origin_eq : changed.origin path = tree.origin path := by rw [origin, origin, h]

theorem target_eq : changed.target path = tree.target path := by rw [target, target, origin_eq h]

theorem above_eq : changed.above path = tree.above path := by rw [above, above, origin_eq h]

end Current

/-- A path that keeps to what a path and a name may be. -/
structure Fits (path : Path) : Prop where
  noZero : '\x00' ∉ path.text.toList
  length : Text.size path.text ≤ pathBound
  names : ∀ step ∈ steps path, Text.size step ≤ nameBound

variable {tree : FileTree} {path : Path} {place : Place}

theorem walk_cons_of_directory {step : String} (rest : List String)
    (hplace : tree.get? place = some .directory) (hstep : Text.size step ≤ nameBound) :
    tree.walk place (step :: rest) = tree.walk (next place step) rest := by
  rw [walk, hplace, next]
  simp only
  split
  · rfl
  · split
    · rfl
    · rw [if_neg (Nat.not_lt.2 hstep)]

/-- The dots are short names. -/
theorem walk_cons_of_long {step : String} (rest : List String)
    (hplace : tree.get? place = some .directory) (hstep : nameBound < Text.size step) :
    tree.walk place (step :: rest) = .error .nameTooLong := by
  have hdot : step ≠ "." := by
    rintro rfl
    exact absurd hstep (by decide)
  have hdots : step ≠ ".." := by
    rintro rfl
    exact absurd hstep (by decide)
  rw [walk, hplace]
  simp only
  rw [if_neg hdot, if_neg hdots, if_pos hstep]

theorem walk_eq_ok_iff {steps : List String} {found : Place} :
    tree.walk place steps = .ok found ↔ found = advance place steps ∧
      (∀ p ∈ passed place steps, tree.get? p = some .directory) ∧
      ∀ step ∈ steps, Text.size step ≤ nameBound := by
  induction steps generalizing place with
  | nil => simp [walk, advance, passed, eq_comm]
  | cons step rest ih =>
    rw [passed, List.forall_mem_cons, List.forall_mem_cons, advance, List.foldl_cons]
    cases hplace : tree.get? place with
    | none => simp [walk, hplace]
    | some entry =>
      cases entry with
      | file => simp [walk, hplace]
      | directory =>
        by_cases hstep : Text.size step ≤ nameBound
        · rw [walk_cons_of_directory rest hplace hstep, ih]
          simp [hstep, advance]
        · rw [walk_cons_of_long rest hplace (Nat.not_le.1 hstep)]
          simp [hstep]

/-- As long as no file is in the way, a walk only fails where something is missing. -/
theorem walk_eq_notFound {steps : List String}
    (hsteps : ∀ step ∈ steps, Text.size step ≤ nameBound)
    (hfree : ∀ p ∈ passed place steps, ∀ content, tree.get? p ≠ some (.file content))
    (hmissing : ∃ p ∈ passed place steps, tree.get? p = none) :
    tree.walk place steps = .error .notFound := by
  induction steps generalizing place with
  | nil =>
    obtain ⟨_, hmem, _⟩ := hmissing
    cases hmem
  | cons step rest ih =>
    rw [passed, List.forall_mem_cons] at hfree
    rw [List.forall_mem_cons] at hsteps
    cases hplace : tree.get? place with
    | none => rw [walk, hplace]
    | some entry =>
      cases entry with
      | file content => exact absurd hplace (hfree.1 content)
      | directory =>
        rw [walk_cons_of_directory rest hplace hsteps.1]
        refine ih hsteps.2 hfree.2 ?_
        obtain ⟨p, hmem, hp⟩ := hmissing
        rcases List.mem_cons.1 hmem with rfl | hmem
        · rw [hplace] at hp
          cases hp
        · exact ⟨p, hmem, hp⟩

theorem locate_eq_walk (h : Fits path) (hnonempty : path.text ≠ "") :
    tree.locate path = tree.walk (tree.origin path) (steps path) := by
  rw [locate, if_neg (mt List.contains_iff_mem.1 h.noZero), if_neg hnonempty,
    if_neg (Nat.not_lt.2 h.length)]
  rfl

theorem locate_eq_ok_iff : tree.locate path = .ok place ↔
    Fits path ∧ path.text ≠ "" ∧ (∀ p ∈ tree.above path, tree.get? p = some .directory) ∧
      place = tree.target path := by
  refine ⟨fun h => ?_, fun ⟨hfits, hnonempty, habove, hplace⟩ => ?_⟩
  · rw [locate] at h
    split at h
    · cases h
    · next hzero =>
      split at h
      · cases h
      · next hempty =>
        split at h
        · cases h
        · next hlong =>
          obtain ⟨hplace, habove, hnames⟩ := walk_eq_ok_iff.1 h
          exact ⟨⟨mt List.contains_iff_mem.2 hzero, Nat.not_lt.1 hlong, hnames⟩, hempty, habove,
            hplace⟩
  · rw [locate_eq_walk hfits hnonempty, walk_eq_ok_iff]
    exact ⟨hplace, habove, hfits.names⟩

/-- A change that keeps the directories on the way of a path does not change where it leads. -/
theorem locate_of_keeps {changed : FileTree} (h : tree.locate path = .ok place)
    (hcurrent : changed.current = tree.current)
    (hkeeps : ∀ p ∈ tree.above path, tree.get? p = some .directory →
      changed.get? p = some .directory) : changed.locate path = .ok place := by
  obtain ⟨hfits, hnonempty, habove, hplace⟩ := locate_eq_ok_iff.1 h
  rw [locate_eq_ok_iff, above_eq hcurrent, target_eq hcurrent]
  exact ⟨hfits, hnonempty, fun p hmem => hkeeps p hmem (habove p hmem), hplace⟩

/-- The root is a directory. -/
theorem ne_nil_of_get?_ne (h : tree.get? place ≠ some .directory) : place ≠ [] := by
  rintro rfl
  exact h rfl

/-- A file never is in the way of a path that leads to it. -/
theorem locate_put (content : ByteArray) (h : tree.locate path = .ok place)
    (hplace : tree.get? place ≠ some .directory) :
    (tree.put place (.file content)).locate path = .ok place := by
  refine locate_of_keeps h rfl fun p _ hp => ?_
  rw [get?_put tree (.file content) p (ne_nil_of_get?_ne hplace), if_neg, hp]
  rintro rfl
  exact hplace hp

theorem find_of_error {e : DiskError} (h : tree.locate path = .error e) :
    tree.find path = .error e := by
  rw [find, h]
  rfl

theorem find_of_locate (h : tree.locate path = .ok place) : tree.find path =
    match tree.get? place with
    | some (.file content) =>
      if endsInDirectory path then .error .notDirectory else .ok (place, some (.file content))
    | found => .ok (place, found) := by
  rw [find, h]
  cases hplace : tree.get? place with
  | none => simp only [bind, Except.bind, hplace]; rfl
  | some entry =>
    cases entry with
    | directory => simp only [bind, Except.bind, hplace]; rfl
    | file content => simp only [bind, Except.bind, hplace]; rfl

theorem write_eq_ok_iff {content : ByteArray} {changed : FileTree} :
    tree.write path content = .ok changed ↔ ∃ place, tree.locate path = .ok place ∧
      tree.get? place ≠ some .directory ∧ endsInDirectory path = false ∧
      changed = tree.put place (.file content) := by
  rw [write]
  cases hlocate : tree.locate path with
  | error e => simp [find_of_error hlocate, bind, Except.bind]
  | ok place =>
    rw [find_of_locate hlocate]
    cases hplace : tree.get? place with
    | none =>
      cases hend : endsInDirectory path <;>
        simp [bind, Except.bind, pure, Except.pure, throw, throwThe, MonadExceptOf.throw, hplace,
          eq_comm]
    | some entry =>
      cases entry with
      | directory => simp [bind, Except.bind, throw, throwThe, MonadExceptOf.throw, hplace]
      | file before =>
        cases hend : endsInDirectory path <;>
          simp [bind, Except.bind, pure, Except.pure, hplace, eq_comm]

/-- What is done to a file that is there needs the path to lead to one. -/
theorem find_bind_eq_ok_iff {α : Type} {next : Place × Option TreeEntry → Except DiskError α}
    {value : α} (hnone : ∀ place, next (place, none) ≠ .ok value)
    (hdirectory : ∀ place, next (place, some .directory) ≠ .ok value) :
    (tree.find path >>= next) = .ok value ↔ ∃ place content, tree.locate path = .ok place ∧
      tree.get? place = some (.file content) ∧ endsInDirectory path = false ∧
      next (place, some (.file content)) = .ok value := by
  cases hlocate : tree.locate path with
  | error e => simp [find_of_error hlocate, bind, Except.bind]
  | ok place =>
    rw [find_of_locate hlocate]
    cases hplace : tree.get? place with
    | none => simp [bind, Except.bind, hplace, hnone]
    | some entry =>
      cases entry with
      | directory => simp [bind, Except.bind, hplace, hdirectory]
      | file content => cases hend : endsInDirectory path <;> simp [bind, Except.bind, hplace]

theorem append_eq_ok_iff {content : ByteArray} {changed : FileTree} :
    tree.append path content = .ok changed ↔ ∃ place before, tree.locate path = .ok place ∧
      tree.get? place = some (.file before) ∧ endsInDirectory path = false ∧
      changed = tree.put place (.file (before ++ content)) := by
  refine (find_bind_eq_ok_iff ?_ ?_).trans ?_
  · exact fun _ => nofun
  · exact fun _ => nofun
  · simp only [pure, Except.pure, Except.ok.injEq, eq_comm]

theorem remove_eq_ok_iff {changed : FileTree} :
    tree.remove path = .ok changed ↔ ∃ place content, tree.locate path = .ok place ∧
      tree.get? place = some (.file content) ∧ endsInDirectory path = false ∧
      changed = tree.delete place := by
  refine (find_bind_eq_ok_iff ?_ ?_).trans ?_
  · exact fun _ => nofun
  · exact fun _ => nofun
  · simp only [pure, Except.pure, Except.ok.injEq, eq_comm]

theorem read_eq_ok_iff {text : String} : tree.read path = .ok text ↔ ∃ place,
    tree.locate path = .ok place ∧ tree.get? place = some (.file text.toUTF8) ∧
      endsInDirectory path = false := by
  refine (find_bind_eq_ok_iff ?_ ?_).trans ?_
  · exact fun _ => nofun
  · exact fun _ => nofun
  · refine ⟨fun ⟨place, content, hlocate, hplace, hend, htext⟩ => ?_,
      fun ⟨place, hlocate, hplace, hend⟩ => ⟨place, _, hlocate, hplace, hend, ?_⟩⟩
    · simp only at htext
      split at htext
      · next found hfound =>
        cases htext
        exact ⟨place, hlocate, Text.fromUTF8?_eq_some_iff.1 hfound ▸ hplace, hend⟩
      · cases htext
    · have htext : String.fromUTF8? text.toUTF8 = some text := Text.fromUTF8?_eq_some_iff.2 rfl
      simp only [htext]
      rfl

theorem run_request_eq_ok_iff {change : FileTree → Except DiskError FileTree}
    {changed : FileTree} :
    (request change).run tree = (.ok (), changed) ↔ change tree = .ok changed := by
  change request change tree = _ ↔ _
  rw [request]
  refine ⟨fun h => ?_, fun h => ?_⟩
  · split at h
    · next hchange =>
      cases h
      exact hchange
    · cases h
  · rw [h]

theorem run_request_of_error {change : FileTree → Except DiskError FileTree} {e : DiskError}
    (h : change tree = .error e) : (request change).run tree = (.error e, tree) := by
  change request change tree = _
  rw [request, h]

theorem run_create_eq_ok_iff {changed : FileTree} :
    (disk.create path).run tree = (.ok (), changed) ↔ ∃ place, tree.locate path = .ok place ∧
      tree.get? place ≠ some .directory ∧ endsInDirectory path = false ∧
      changed = tree.put place (.file .empty) :=
  run_request_eq_ok_iff.trans write_eq_ok_iff

theorem run_append_eq_ok_iff {text : String} {changed : FileTree} :
    (disk.append path text).run tree = (.ok (), changed) ↔ ∃ place before,
      tree.locate path = .ok place ∧ tree.get? place = some (.file before) ∧
      endsInDirectory path = false ∧
      changed = tree.put place (.file (before ++ text.toUTF8)) :=
  run_request_eq_ok_iff.trans append_eq_ok_iff

end FunctionForge.FileTree
