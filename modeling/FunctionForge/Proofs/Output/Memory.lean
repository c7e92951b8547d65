import FunctionForge.Proofs.Output.Answer

/-!
# Writers on one memory

A writer opens a file, writes texts to it, and closes it or is dropped. What is stored follows from
the writers that were closed: a path is stored when it is closed for the first time, and the last
writer that was closed there says what it holds. A writer that was dropped leaves no trace but to be
counted.
-/

namespace FunctionForge

/-! ### Writers -/

/-- What a writer does with its file: the texts that it writes, and whether it closes the file in
the end or is dropped. -/
structure Writing where
  location : Location
  texts : List String
  closes : Bool
  deriving DecidableEq, Repr

/-- What came of a writer: the answers to its texts and, if it was closed, the answer to that. -/
structure Written where
  answers : List (Except WriteError Unit)
  closing : Option (Except WriteError Nat)

namespace Writer

variable {m : Type → Type} [Monad m]

/-- Writes texts in order, also those after one that was refused. -/
def writeEvery (sink : Sink m) (writer : Writer) :
    List String → m (List (Except WriteError Unit) × Writer)
  | [] => pure ([], writer)
  | text :: rest => do
    let (answer, writer) ← writer.write sink text
    let (answers, writer) ← writer.writeEvery sink rest
    return (answer :: answers, writer)

end Writer

namespace Writing

def path (writing : Writing) : Path := writing.location.relativePath

def text (writing : Writing) : String := String.join writing.texts

def run {m : Type → Type} [Monad m] (sink : Sink m) (writing : Writing) :
    m (Except WriteError Written) := do
  match ← Writer.begin sink writing.location with
  | .error e => return .error e
  | .ok writer =>
    let (answers, writer) ← writer.writeEvery sink writing.texts
    if writing.closes then return .ok ⟨answers, some (← writer.close sink)⟩
    else
      sink.abandon
      return .ok ⟨answers, none⟩

/-- What comes of a writer that is refused nothing. -/
def outcome (writing : Writing) : Written :=
  ⟨writing.texts.map fun _ => .ok (),
    if writing.closes then some (.ok (Text.size writing.text)) else none⟩

end Writing

namespace MemoryFiles

def paths (memory : MemoryFiles) : List Path := memory.files.map Prod.fst

theorem map_fst_store (path : Path) (text : String) (files : List (Path × String)) :
    (store path text files).map Prod.fst =
      if (files.map Prod.fst).any path.sameAs then files.map Prod.fst
      else files.map Prod.fst ++ [path] := by
  induction files with
  | nil => rfl
  | cons entry rest ih =>
    obtain ⟨first, old⟩ := entry
    rw [store, List.map_cons, List.any_cons, Path.sameAs_comm path first]
    cases first.sameAs path with
    | true => rfl
    | false =>
      rw [if_neg Bool.false_ne_true, List.map_cons, ih, Bool.false_or]
      split <;> rfl

theorem paths_commit (memory : MemoryFiles) (path : Path) (text : String) :
    (memory.commit path text).paths =
      if memory.paths.any path.sameAs then memory.paths else memory.paths ++ [path] :=
  map_fst_store path text memory.files

/-- The memory after a writer. -/
def after (memory : MemoryFiles) (writing : Writing) : MemoryFiles :=
  if writing.closes then memory.commit writing.path writing.text
  else { memory with opened := memory.opened + 1, buffer := none }

/-- The memory after writers, one after the other. -/
def afterAll (memory : MemoryFiles) (writings : List Writing) : MemoryFiles :=
  writings.foldl after memory

/-! ### One writer -/

theorem run_writeEvery (memory : MemoryFiles) (writer : Writer) (texts : List String) :
    (writer.writeEvery sink texts).run memory =
      ((texts.map fun _ => .ok (), ⟨writer.written + Text.size (String.join texts)⟩),
        { memory with
          buffer := memory.buffer.map fun (path, text) => (path, text ++ String.join texts) }) := by
  induction texts generalizing memory writer with
  | nil =>
    obtain ⟨files, opened, closed, buffer⟩ := memory
    cases buffer with
    | none => rfl
    | some entry =>
      simp only [Writer.writeEvery, StateT.run_pure, String.join_nil, Option.map_some,
        String.append_empty]
      rfl
  | cons text rest ih =>
    have hwrite : (writer.write sink text).run memory =
        ((.ok (), ⟨writer.written + Text.size text⟩), memory.write text) := rfl
    rw [Writer.writeEvery, run_bind_of_run_eq hwrite, run_bind_of_run_eq (ih _ _)]
    simp only [write, StateT.run_pure, Option.map_map, Function.comp_def, String.append_assoc,
      Nat.add_assoc, List.map_cons, String.join_cons, Text.size_append]
    rfl

/-- What a writer writes waits until it is closed, and is given up if it is dropped. -/
theorem run_writing (memory : MemoryFiles) (writing : Writing) :
    (writing.run sink).run memory = (.ok writing.outcome, memory.after writing) := by
  have hbegin : (Writer.begin sink writing.location).run memory =
      (.ok ⟨0⟩, memory.openFile writing.location) := rfl
  rw [Writing.run, run_bind_of_run_eq hbegin]
  simp only
  rw [run_bind_of_run_eq (run_writeEvery _ _ _), Writing.outcome, after, Nat.zero_add]
  cases writing.closes with
  | true =>
    simp only [openFile, Option.map_some, String.empty_append]
    rfl
  | false => rfl

section After

variable {memory : MemoryFiles} {writing : Writing}

theorem after_of_closed (h : writing.closes = true) :
    memory.after writing = memory.commit writing.path writing.text :=
  if_pos h

theorem after_of_dropped (h : writing.closes = false) :
    memory.after writing = { memory with opened := memory.opened + 1, buffer := none } :=
  if_neg (Bool.eq_false_iff.1 h)

theorem pairwise_paths_after
    (h : memory.paths.Pairwise fun first second => first.sameAs second = false)
    (writing : Writing) :
    (memory.after writing).paths.Pairwise fun first second => first.sameAs second = false := by
  cases hcloses : writing.closes with
  | false => rwa [after_of_dropped hcloses]
  | true =>
    rw [after_of_closed hcloses, paths_commit]
    split
    · exact h
    · next hnew =>
      refine List.pairwise_append.2 ⟨h, List.pairwise_singleton _ _, ?_⟩
      intro stored hstored path hpath
      cases List.mem_singleton.1 hpath
      rw [Path.sameAs_comm, ← Bool.not_eq_true]
      exact fun hsame => hnew (List.any_eq_true.2 ⟨stored, hstored, hsame⟩)

end After

/-! ### Many writers -/

theorem run_mapM_writing (memory : MemoryFiles) (writings : List Writing) :
    (writings.mapM (Writing.run sink)).run memory =
      (writings.map fun writing => .ok writing.outcome, memory.afterAll writings) := by
  induction writings generalizing memory with
  | nil => rfl
  | cons writing rest ih =>
    rw [List.mapM_cons, run_bind_of_run_eq (run_writing memory writing),
      run_bind_of_run_eq (ih (memory.after writing))]
    rfl

section AfterAll

variable (memory : MemoryFiles) (writings : List Writing)

theorem opened_afterAll :
    (memory.afterAll writings).opened = memory.opened + writings.length := by
  induction writings generalizing memory with
  | nil => rfl
  | cons writing rest ih =>
    have hopened : (memory.after writing).opened = memory.opened + 1 := by
      rw [after]
      split <;> rfl
    refine (ih (memory.after writing)).trans ?_
    rw [hopened, List.length_cons]
    omega

theorem closed_afterAll : (memory.afterAll writings).closed =
    memory.closed + (writings.filter Writing.closes).length := by
  induction writings generalizing memory with
  | nil => rfl
  | cons writing rest ih =>
    refine (ih (memory.after writing)).trans ?_
    cases hcloses : writing.closes with
    | false =>
      rw [after_of_dropped hcloses, List.filter_cons_of_neg (Bool.eq_false_iff.1 hcloses)]
    | true =>
      rw [after_of_closed hcloses, List.filter_cons_of_pos hcloses, List.length_cons,
        Nat.add_comm _ 1, ← Nat.add_assoc]
      rfl

/-- What a path holds was written by the last writer that was closed there. -/
theorem file?_afterAll (path : Path) : (memory.afterAll writings).file? path =
    (((writings.filter Writing.closes).reverse.find? fun writing =>
      writing.path.sameAs path).map Writing.text).or (memory.file? path) := by
  induction writings generalizing memory with
  | nil => rfl
  | cons writing rest ih =>
    refine (ih (memory.after writing)).trans ?_
    cases hcloses : writing.closes with
    | false =>
      rw [after_of_dropped hcloses, List.filter_cons_of_neg (Bool.eq_false_iff.1 hcloses)]
      rfl
    | true =>
      rw [after_of_closed hcloses, List.filter_cons_of_pos hcloses, List.reverse_cons,
        List.find?_append, file?_commit, Option.map_or, Option.or_assoc]
      refine congrArg _ ?_
      cases hsame : writing.path.sameAs path with
      | false => simp [hsame]
      | true => simp [hsame]

/-- Paths are stored in the order in which they were closed for the first time. -/
theorem paths_afterAll : (memory.afterAll writings).paths =
    List.eraseDupsBy.loop Path.sameAs ((writings.filter Writing.closes).map Writing.path)
      memory.paths.reverse := by
  induction writings generalizing memory with
  | nil => exact (List.reverse_reverse _).symm
  | cons writing rest ih =>
    refine (ih (memory.after writing)).trans ?_
    cases hcloses : writing.closes with
    | false =>
      rw [after_of_dropped hcloses, List.filter_cons_of_neg (Bool.eq_false_iff.1 hcloses)]
      rfl
    | true =>
      rw [after_of_closed hcloses, List.filter_cons_of_pos hcloses, List.map_cons,
        List.eraseDupsBy.loop, List.any_reverse, paths_commit]
      cases memory.paths.any writing.path.sameAs with
      | true => rfl
      | false => rw [if_neg Bool.false_ne_true, List.reverse_concat]

theorem pairwise_paths_afterAll
    (h : memory.paths.Pairwise fun first second => first.sameAs second = false) :
    (memory.afterAll writings).paths.Pairwise fun first second => first.sameAs second = false := by
  induction writings generalizing memory with
  | nil => exact h
  | cons writing rest ih => exact ih _ (pairwise_paths_after h writing)

end AfterAll

/-- Whatever writers do one after the other, every file is that of the last one that was closed
there, as a whole. Paths are stored once each, in the order in which they were closed first, a
writer that is dropped changes no file, and one that is closed is told how many bytes it wrote. -/
theorem writers_commit_on_close (writings : List Writing) :
    let closed := writings.filter Writing.closes
    let answers := ((writings.mapM (Writing.run sink)).run empty).1
    let memory := ((writings.mapM (Writing.run sink)).run empty).2
    memory.opened = writings.length ∧
    memory.closed = closed.length ∧
    memory.paths.Pairwise (fun first second => first.sameAs second = false) ∧
    memory.paths = (closed.map Writing.path).eraseDupsBy Path.sameAs ∧
    (∀ path, memory.file? path =
      (closed.reverse.find? fun writing => writing.path.sameAs path).map Writing.text) ∧
    (∀ dropped : Writing, dropped.closes = false →
      ((dropped.run sink).run memory).2.files = memory.files) ∧
    answers = writings.map fun writing => .ok ⟨writing.texts.map fun _ => .ok (),
      if writing.closes then some (.ok (Text.size writing.text)) else none⟩ := by
  intro closed answers memory
  obtain ⟨hanswers, hmemory⟩ := Prod.mk.inj (run_mapM_writing empty writings)
  have hmemory : memory = empty.afterAll writings := hmemory
  refine ⟨?_, ?_, ?_, ?_, fun path => ?_, fun dropped hdropped => ?_, hanswers⟩
  · rw [hmemory, opened_afterAll]
    exact Nat.zero_add _
  · rw [hmemory, closed_afterAll]
    exact Nat.zero_add _
  · rw [hmemory]
    exact pairwise_paths_afterAll empty writings .nil
  · rw [hmemory, paths_afterAll]
    rfl
  · rw [hmemory, file?_afterAll]
    exact Option.or_none
  · rw [run_writing, after_of_dropped hdropped]

end MemoryFiles

end FunctionForge
