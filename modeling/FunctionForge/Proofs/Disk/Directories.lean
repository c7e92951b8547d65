import FunctionForge.Proofs.Disk.Walk
import FunctionForge.Proofs.Output.File
import FunctionForge.Proofs.Path

/-!
# Making directories

Making a directory with those above it makes a directory of each place on the way that holds
nothing, and changes nothing else. It succeeds unless a file is in the way.
-/

namespace FunctionForge.FileTree

variable {tree made : FileTree} {path parent : Path} {place : Place}

/-- A tree with directories at some places that is otherwise as it was. -/
structure Adds (tree made : FileTree) (places : List Place) : Prop where
  current : made.current = tree.current
  directory : ∀ p ∈ places, made.get? p = some .directory
  others : ∀ p, p ∉ places → made.get? p = tree.get? p

namespace Adds

variable {between : FileTree} {places more : List Place}

theorem of_directories (h : ∀ p ∈ places, tree.get? p = some .directory) :
    tree.Adds tree places :=
  ⟨rfl, h, fun _ _ => rfl⟩

theorem put (h : place ≠ []) : tree.Adds (tree.put place .directory) [place] := by
  refine ⟨rfl, List.forall_mem_singleton.2 ?_, fun p hp => ?_⟩
  · rw [get?_put tree _ place h, if_pos rfl]
  · rw [get?_put tree _ p h, if_neg (mt List.mem_singleton.2 hp)]

theorem trans (h : tree.Adds between places) (h' : between.Adds made more) :
    tree.Adds made (places ++ more) := by
  refine ⟨h'.current.trans h.current, fun p hp => ?_, fun p hp => ?_⟩
  · by_cases hmore : p ∈ more
    · exact h'.directory p hmore
    · rw [h'.others p hmore, h.directory p ((List.mem_append.1 hp).resolve_right hmore)]
  · rw [List.mem_append, not_or] at hp
    rw [h'.others p hp.2, h.others p hp.1]

theorem congr (h : tree.Adds made places) (hmem : ∀ p, p ∈ more ↔ p ∈ places) :
    tree.Adds made more :=
  ⟨h.current, fun p hp => h.directory p ((hmem p).1 hp),
    fun p hp => h.others p (mt (hmem p).2 hp)⟩

/-- What was no file is none. -/
theorem ne_file (h : tree.Adds made places)
    (hplace : ∀ content, tree.get? place ≠ some (.file content)) (content : ByteArray) :
    made.get? place ≠ some (.file content) := by
  by_cases hmem : place ∈ places
  · rw [h.directory place hmem]
    nofun
  · rw [h.others place hmem]
    exact hplace content

end Adds

theorem mem_passed_dots {dots : List String} (hdots : ∀ step ∈ dots, step = ".") (last : String)
    (p : Place) : p ∈ passed place (dots ++ [last]) ↔ p = place := by
  induction dots with
  | nil => simp [passed]
  | cons step rest ih =>
    rw [List.forall_mem_cons] at hdots
    rw [List.cons_append, passed, List.mem_cons, next, if_pos hdots.1, ih hdots.2, or_self]

section Parent

variable (htrimmed : path.IsTrimmed) (h : path.parent? = some parent)

include htrimmed h

theorem exists_steps_eq : ∃ dots last, (∀ step ∈ dots, step = ".") ∧
    steps path = steps parent ++ (dots ++ [last]) := by
  obtain ⟨dots, last, hdots, hnames⟩ := Path.exists_names_eq htrimmed h
  refine ⟨dots.map String.ofList, String.ofList last, fun step hmem => ?_, ?_⟩
  · obtain ⟨piece, hpiece, rfl⟩ := List.mem_map.1 hmem
    rw [hdots piece hpiece]
  · rw [show steps path = path.names.map String.ofList from rfl, hnames, List.map_append,
      List.map_append]
    rfl

theorem fits_parent (hfits : Fits path) : Fits parent := by
  obtain ⟨dots, last, -, hsteps⟩ := exists_steps_eq htrimmed h
  obtain ⟨rest, hrest⟩ := (Path.isParent_of_parent? h).text
  refine ⟨fun hmem => hfits.noZero ?_, Nat.le_trans ?_ hfits.length,
    fun step hmem => hfits.names step ?_⟩
  · rw [← hrest]
    exact List.mem_append_left rest hmem
  · rw [Text.size, Text.size, ← hrest, Text.byteLength_append]
    exact Nat.le_add_right _ _
  · rw [hsteps]
    exact List.mem_append_left _ hmem

omit htrimmed in
theorem origin_parent : tree.origin parent = tree.origin path := by
  rw [origin, origin, (Path.isParent_of_parent? h).isAbsolute]

/-- A path passes what the path above it passes, and what that leads to. -/
theorem mem_above_iff (p : Place) :
    p ∈ tree.above path ↔ p ∈ tree.above parent ++ [tree.target parent] := by
  obtain ⟨dots, last, hdots, hsteps⟩ := exists_steps_eq htrimmed h
  rw [above, hsteps, passed_append, ← origin_parent h, List.mem_append, mem_passed_dots hdots last,
    List.mem_append, List.mem_singleton, above, target]

end Parent

/-- Once the places on the way are directories, a path leads to one more, made or there before. -/
theorem run_makeDirectory (hfits : Fits path) (hnonempty : path.text ≠ "")
    (habove : ∀ p ∈ tree.above path, tree.get? p = some .directory)
    (hfree : ∀ content, tree.get? (tree.target path) ≠ some (.file content)) :
    ∃ result made, (disk.makeDirectory path).run tree = (result, made) ∧
      result ≠ .error .notFound ∧ (disk.settle path result).run made = (.ok (), made) ∧
      tree.Adds made [tree.target path] := by
  have hlocate : tree.locate path = .ok (tree.target path) :=
    locate_eq_ok_iff.2 ⟨hfits, hnonempty, habove, rfl⟩
  cases hplace : tree.get? (tree.target path) with
  | none =>
    have hdirectory : tree.get? (tree.target path) ≠ some .directory := by
      rw [hplace]
      nofun
    have hmake : tree.makeDirectory path = .ok (tree.put (tree.target path) .directory) := by
      simp only [makeDirectory, hlocate, bind, Except.bind, hplace]
      rfl
    exact ⟨.ok (), _, run_request_eq_ok_iff.2 hmake, nofun, rfl,
      .put (ne_nil_of_get?_ne hdirectory)⟩
  | some entry =>
    cases entry with
    | file content => exact absurd hplace (hfree content)
    | directory =>
      have hmake : tree.makeDirectory path = .error .alreadyExists := by
        simp only [makeDirectory, hlocate, bind, Except.bind, hplace]
        rfl
      have hthere : tree.isDirectory path = true := by
        rw [isDirectory, find_of_locate hlocate, hplace]
      have hsettle : (disk.settle path (.error .alreadyExists)).run tree =
          (if tree.isDirectory path then .ok () else .error .alreadyExists, tree) := rfl
      refine ⟨.error .alreadyExists, tree, run_request_of_error hmake, nofun, ?_,
        .of_directories (List.forall_mem_singleton.2 hplace)⟩
      rw [hsettle, if_pos hthere]

theorem run_makeFirst_cons {rest : List Path} {result : Except DiskError Unit}
    {between : FileTree} (h : (disk.makeDirectory path).run tree = (result, between))
    (hresult : result ≠ .error .notFound) :
    (disk.makeFirst (path :: rest)).run tree = (disk.settle path result).run between := by
  rw [Disk.makeFirst, run_bind_of_run_eq h]
  split
  · exact absurd rfl hresult
  · rfl

theorem run_makeFirst_cons_of_notFound {rest : List Path} {between : FileTree}
    (h : (disk.makeDirectory path).run tree = (.error .notFound, tree))
    (hrest : (disk.makeFirst rest).run tree = (.ok (), between)) :
    (disk.makeFirst (path :: rest)).run tree =
      (disk.makeDirectory path >>= disk.settle path).run between := by
  rw [Disk.makeFirst, run_bind_of_run_eq h]
  exact run_bind_of_run_eq hrest _

theorem exists_missing {places : List Place}
    (h : ¬ ∀ p ∈ places, tree.get? p = some .directory)
    (hfree : ∀ p ∈ places, ∀ content, tree.get? p ≠ some (.file content)) :
    ∃ p ∈ places, tree.get? p = none := by
  simp only [Classical.not_forall] at h
  obtain ⟨p, hp, hdirectory⟩ := h
  refine ⟨p, hp, ?_⟩
  cases hplace : tree.get? p with
  | none => rfl
  | some entry =>
    cases entry with
    | directory => exact absurd hplace hdirectory
    | file content => exact absurd hplace (hfree p hp content)

/-- What is missing for a path is made for its parent first. -/
theorem run_makeFirst_of_parent {rest : List Path} (hfits : Fits path) (htrimmed : path.IsTrimmed)
    (hparent : path.parent? = some parent)
    (hfree : ∀ p ∈ tree.above path ++ [tree.target path],
      ∀ content, tree.get? p ≠ some (.file content))
    (hrest : ∃ between, (disk.makeFirst rest).run tree = (.ok (), between) ∧
      tree.Adds between (tree.above parent ++ [tree.target parent])) :
    ∃ made, (disk.makeFirst (path :: rest)).run tree = (.ok (), made) ∧
      tree.Adds made (tree.above path ++ [tree.target path]) := by
  have hnonempty := Path.text_ne_empty_of_parent? hparent
  have hmem (p : Place) : p ∈ tree.above path ↔ p ∈ tree.above parent ++ [tree.target parent] :=
    mem_above_iff htrimmed hparent p
  rw [List.forall_mem_append, List.forall_mem_singleton] at hfree
  -- The paths above are only tried where the directory itself cannot be made.
  by_cases habove : ∀ p ∈ tree.above path, tree.get? p = some .directory
  · obtain ⟨result, made, hmake, hresult, hsettle, hadds⟩ :=
      run_makeDirectory hfits hnonempty habove hfree.2
    refine ⟨made, (run_makeFirst_cons hmake hresult).trans hsettle, ?_⟩
    exact (Adds.of_directories habove).trans hadds
  · have hmissing := exists_missing habove hfree.1
    have hnotFound : (disk.makeDirectory path).run tree = (.error .notFound, tree) := by
      refine run_request_of_error ?_
      rw [makeDirectory, locate_eq_walk hfits hnonempty,
        walk_eq_notFound hfits.names hfree.1 hmissing]
      rfl
    obtain ⟨between, hbetween, hbelow⟩ := hrest
    have habove' : ∀ p ∈ between.above path, between.get? p = some .directory := by
      rw [above_eq hbelow.current]
      exact fun p hp => hbelow.directory p ((hmem p).1 hp)
    have hfree' : ∀ content, between.get? (between.target path) ≠ some (.file content) := by
      rw [target_eq hbelow.current]
      exact hbelow.ne_file hfree.2
    obtain ⟨result, made, hmake, -, hsettle, hadds⟩ :=
      run_makeDirectory hfits hnonempty habove' hfree'
    refine ⟨made, ?_, (hbelow.trans hadds).congr fun p => ?_⟩
    · rw [run_makeFirst_cons_of_notFound hnotFound hbetween, run_bind_of_run_eq hmake]
      exact hsettle
    · rw [target_eq hbelow.current, List.mem_append, List.mem_append, hmem]

theorem run_makeFirst_named (hfits : Fits path) (htrimmed : path.IsTrimmed)
    (horigin : tree.get? (tree.origin path) = some .directory)
    (hfree : ∀ p ∈ tree.above path ++ [tree.target path],
      ∀ content, tree.get? p ≠ some (.file content)) :
    ∃ made, (disk.makeFirst path.named).run tree = (.ok (), made) ∧
      tree.Adds made (tree.above path ++ [tree.target path]) := by
  generalize hnamed : path.named = paths
  -- What has to be there for a path is the path itself and what has to be there for its parent.
  induction paths generalizing path with
  | nil =>
    cases hparent : path.parent? with
    | some parent =>
      rw [Path.named_of_some hparent] at hnamed
      cases hnamed
    | none =>
      have hsteps : steps path = [] := by
        rw [show steps path = path.names.map String.ofList from rfl, htrimmed,
          Path.parent?_eq_none_iff.1 hparent]
        rfl
      refine ⟨tree, rfl, .of_directories ?_⟩
      rw [above, target, hsteps]
      exact List.forall_mem_singleton.2 horigin
  | cons first rest ih =>
    cases hparent : path.parent? with
    | none =>
      rw [Path.named_of_none hparent] at hnamed
      cases hnamed
    | some parent =>
      rw [Path.named_of_some hparent] at hnamed
      obtain ⟨rfl, hrest⟩ := List.cons.inj hnamed
      refine run_makeFirst_of_parent hfits htrimmed hparent hfree ?_
      rw [List.forall_mem_append] at hfree
      refine ih (fits_parent htrimmed hparent hfits) (Path.isParent_of_parent? hparent).trimmed
        (origin_parent hparent ▸ horigin) (fun p hp => hfree.1 p ?_) hrest
      exact (mem_above_iff htrimmed hparent p).2 hp

/-- The directories on the way of a path are made as long as no file is in the way. -/
theorem run_makeParent (hfits : Fits path) (htrimmed : path.IsTrimmed)
    (hparent : path.parent? = some parent)
    (horigin : tree.get? (tree.origin path) = some .directory)
    (hfree : ∀ p ∈ tree.above path, ∀ content, tree.get? p ≠ some (.file content)) :
    ∃ made, (FileOutput.makeParent disk path).run tree = (.ok (), made) ∧
      tree.Adds made (tree.above path) := by
  have hmem (p : Place) : p ∈ tree.above path ↔ p ∈ tree.above parent ++ [tree.target parent] :=
    mem_above_iff htrimmed hparent p
  obtain ⟨made, hmade, hadds⟩ := run_makeFirst_named (fits_parent htrimmed hparent hfits)
    (Path.isParent_of_parent? hparent).trimmed (origin_parent hparent ▸ horigin)
    (fun p hp => hfree p ((hmem p).2 hp))
  refine ⟨made, ?_, hadds.congr hmem⟩
  rw [FileOutput.makeParent, hparent]
  exact run_bind_of_run_eq hmade _

end FunctionForge.FileTree
