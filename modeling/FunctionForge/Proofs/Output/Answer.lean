import FunctionForge.Control
import FunctionForge.Output.Memory

/-!
# What a sink answers

Texts are sent to a sink in order, up to the first one that it refuses. The answers are a list, and
which lists can occur does not depend on the sink: all texts but the last one sent were accepted,
and if that one was accepted too then nothing was held back. Observing a sink, for what it is asked
or for the failures among its answers, changes none of the answers.
-/

namespace FunctionForge

def failure? {ε α : Type} : Except ε α → Option ε
  | .error e => some e
  | .ok _ => none

/-- A text that was sent to a sink, with the answer to it. -/
abbrev Sent := String × Except WriteError Unit

def refusal? (sent : List Sent) : Option WriteError :=
  sent.findSome? fun entry => failure? entry.2

def acceptedSize : List Sent → Nat
  | [] => 0
  | (text, .ok ()) :: sent => Text.size text + acceptedSize sent
  | (_, .error _) :: sent => acceptedSize sent

theorem failure?_eq_none_iff {ε α : Type} {result : Except ε α} :
    failure? result = none ↔ ∃ value, result = .ok value := by
  cases result <;> simp [failure?]

theorem failure?_answer_eq_none_iff {ε : Type} {answer : Except ε Unit} :
    failure? answer = none ↔ answer = .ok () := by
  cases answer <;> simp [failure?]

theorem refusal?_eq_none_iff {sent : List Sent} :
    refusal? sent = none ↔ ∀ entry ∈ sent, entry.2 = .ok () := by
  simp only [refusal?, List.findSome?_eq_none_iff, failure?_answer_eq_none_iff]

/-- The answers to texts that are sent in order up to the first refusal. -/
inductive Answers : List String → List Sent → Prop
  | done : Answers [] []
  | accepted {text : String} {texts : List String} {sent : List Sent} (hsent : Answers texts sent) :
      Answers (text :: texts) ((text, .ok ()) :: sent)
  | refused (text : String) (texts : List String) (e : WriteError) :
      Answers (text :: texts) [(text, .error e)]

namespace Answers

variable {texts : List String} {sent : List Sent}

theorem prefix_texts (h : Answers texts sent) : sent.map Prod.fst <+: texts := by
  induction h with
  | done => exact List.nil_prefix
  | accepted _ ih => exact List.cons_prefix_cons.2 ⟨rfl, ih⟩
  | refused text texts => exact List.cons_prefix_cons.2 ⟨rfl, List.nil_prefix⟩

theorem accepted_of_mem_dropLast (h : Answers texts sent) :
    ∀ entry ∈ sent.dropLast, entry.2 = .ok () := by
  induction h with
  | done => simp
  | @accepted text texts sent _ ih =>
    cases sent with
    | nil => simp
    | cons next rest =>
      rw [List.dropLast_cons_cons]
      exact List.forall_mem_cons.2 ⟨rfl, ih⟩
  | refused => simp

theorem eq_of_accepted (h : Answers texts sent) (haccepted : ∀ entry ∈ sent, entry.2 = .ok ()) :
    sent = texts.map fun text => (text, .ok ()) := by
  induction h with
  | done => rfl
  | accepted _ ih => rw [ih (List.forall_mem_cons.1 haccepted).2, List.map_cons]
  | refused => simp at haccepted

theorem of_texts (texts : List String) : Answers texts (texts.map fun text => (text, .ok ())) := by
  induction texts with
  | nil => exact .done
  | cons text rest ih => exact .accepted ih

end Answers

namespace Sink

variable {m : Type → Type} [Monad m]

/-- Sends texts to a sink in order up to the first refusal, and tells the answers. -/
def writeEach (sink : Sink m) : List String → m (List Sent)
  | [] => pure []
  | text :: rest => do
    match ← sink.write text with
    | .error e => pure [(text, .error e)]
    | .ok () => do
      let sent ← writeEach sink rest
      pure ((text, .ok ()) :: sent)

/-- An observer asks a sink what it is asked itself and gives its answers. To each request and its
answer it adds notes. -/
structure Observes {ε : Type} (sink : Sink m) (observer : Sink (StateT (List ε) m))
    (opening : Location → Except WriteError Unit → List ε) (sending : Sent → List ε)
    (closing : Except WriteError Unit → List ε) : Prop where
  openFile (location : Location) (notes : List ε) : (observer.openFile location).run notes =
    (fun answer => (answer, notes ++ opening location answer)) <$> sink.openFile location
  write (text : String) (notes : List ε) : (observer.write text).run notes =
    (fun answer => (answer, notes ++ sending (text, answer))) <$> sink.write text
  close (notes : List ε) : observer.close.run notes =
    (fun answer => (answer, notes ++ closing answer)) <$> sink.close

/-- Does what a sink does, and keeps the failure if that is the answer. -/
def watch (action : m (Except WriteError Unit)) :
    StateT (List WriteError) m (Except WriteError Unit) := do
  let answer ← StateT.lift action
  modify (· ++ (failure? answer).toList)
  return answer

/-- A sink that also keeps the failures among its answers, in order. -/
def watched (sink : Sink m) : Sink (StateT (List WriteError) m) where
  openFile location := watch (sink.openFile location)
  write text := watch (sink.write text)
  close := watch sink.close
  abandon := StateT.lift sink.abandon

variable [LawfulMonad m]

theorem Observes.writeEach {ε : Type} {sink : Sink m} {observer : Sink (StateT (List ε) m)}
    {opening : Location → Except WriteError Unit → List ε} {sending : Sent → List ε}
    {closing : Except WriteError Unit → List ε}
    (h : sink.Observes observer opening sending closing) (texts : List String) (notes : List ε) :
    (observer.writeEach texts).run notes =
      (fun sent => (sent, notes ++ sent.flatMap sending)) <$> sink.writeEach texts := by
  induction texts generalizing notes with
  | nil => simp only [Sink.writeEach, StateT.run_pure, map_pure, List.flatMap_nil, List.append_nil]
  | cons text rest ih =>
    simp only [Sink.writeEach, StateT.run_bind, h.write, bind_map_left, map_bind]
    refine bind_congr fun answer => ?_
    cases answer with
    | error e =>
      simp only [StateT.run_pure, map_pure, List.flatMap_cons, List.flatMap_nil, List.append_nil]
    | ok =>
      simp only [StateT.run_bind, ih, StateT.run_pure, bind_map_left, map_bind, map_pure,
        List.flatMap_cons, List.append_assoc]

theorem run_record {α : Type} (event : SinkEvent) (action : m α) (events : List SinkEvent) :
    (do modify (· ++ [event]); StateT.lift action : StateT (List SinkEvent) m α).run events =
      (fun answer => (answer, events ++ [event])) <$> action := by
  simp only [StateT.run_bind, StateT.run_modify, pure_bind, StateT.run_lift, map_eq_pure_bind]

theorem run_watch (action : m (Except WriteError Unit)) (failures : List WriteError) :
    (watch action).run failures =
      (fun answer => (answer, failures ++ (failure? answer).toList)) <$> action := by
  simp only [watch, StateT.run_bind, StateT.run_lift, bind_assoc, pure_bind, StateT.run_modify,
    StateT.run_pure, map_eq_pure_bind]

theorem observes_recorded (sink : Sink m) :
    sink.Observes sink.recorded (fun location _ => [.opened location.relativePath])
      (fun entry => [.written entry.1]) (fun _ => [.closed]) where
  openFile _ _ := run_record _ _ _
  write _ _ := run_record _ _ _
  close _ := run_record _ _ _

theorem observes_watched (sink : Sink m) :
    sink.Observes sink.watched (fun _ answer => (failure? answer).toList)
      (fun entry => (failure? entry.2).toList) (fun answer => (failure? answer).toList) where
  openFile _ _ := run_watch _ _
  write _ _ := run_watch _ _
  close _ := run_watch _ _

section State

variable {σ : Type}

/-- A sink answers texts, one after the other, and goes from one state to another. -/
def Answered (sink : Sink (StateM σ)) : σ → List Sent → σ → Prop
  | before, [], after => before = after
  | before, (text, answer) :: rest, after =>
    ∃ between, (sink.write text).run before = (answer, between) ∧ sink.Answered between rest after

theorem run_writeEach (sink : Sink (StateM σ)) (texts : List String) (before : σ) :
    ∃ sent after, (sink.writeEach texts).run before = (sent, after) ∧
      sink.Answered before sent after ∧ Answers texts sent := by
  induction texts generalizing before with
  | nil => exact ⟨[], before, rfl, rfl, .done⟩
  | cons text rest ih =>
    rcases hwrite : (sink.write text).run before with ⟨answer, between⟩
    cases answer with
    | error e =>
      refine ⟨[(text, .error e)], between, ?_, ⟨between, hwrite, rfl⟩, .refused text rest e⟩
      rw [writeEach, run_bind_of_run_eq hwrite]
      rfl
    | ok =>
      obtain ⟨sent, after, hrun, hanswered, hanswers⟩ := ih between
      refine ⟨(text, .ok ()) :: sent, after, ?_, ⟨between, hwrite, hanswered⟩, .accepted hanswers⟩
      rw [writeEach, run_bind_of_run_eq hwrite]
      exact run_bind_of_run_eq hrun _

/-- A sink whose file is open answers texts, is then closed once, and ends in a state. -/
def Served (sink : Sink (StateM σ)) (opened : σ) (sent : List Sent)
    (closing : Except WriteError Unit) (final : σ) : Prop :=
  ∃ written, sink.Answered opened sent written ∧ sink.close.run written = (closing, final)

/-- No request of a sink ever fails. -/
structure NeverFails (sink : Sink (StateM σ)) : Prop where
  openFile (location : Location) (state : σ) : ((sink.openFile location).run state).1 = .ok ()
  write (text : String) (state : σ) : ((sink.write text).run state).1 = .ok ()
  close (state : σ) : (sink.close.run state).1 = .ok ()

theorem NeverFails.accepted {sink : Sink (StateM σ)} (hsink : sink.NeverFails) {before after : σ}
    {sent : List Sent} (h : sink.Answered before sent after) :
    ∀ entry ∈ sent, entry.2 = .ok () := by
  induction sent generalizing before with
  | nil => simp
  | cons entry rest ih =>
    obtain ⟨between, hwrite, hrest⟩ := h
    refine List.forall_mem_cons.2 ⟨?_, ih hrest⟩
    rw [← hsink.write entry.1 before, hwrite]

end State

end Sink

namespace MemoryFiles

theorem sink_neverFails : sink.NeverFails where
  openFile _ _ := rfl
  write _ _ := rfl
  close _ := rfl

theorem answered_sink {before after : MemoryFiles} {sent : List Sent}
    (h : sink.Answered before sent after) :
    after = { before with
      buffer := before.buffer.map fun (path, text) =>
        (path, text ++ String.join (sent.map Prod.fst)) } := by
  induction sent generalizing before with
  | nil =>
    have hsame : before = after := h
    simp [← hsame]
  | cons entry rest ih =>
    obtain ⟨between, hwrite, hrest⟩ := h
    have hbetween : before.write entry.1 = between := congrArg Prod.snd hwrite
    rw [ih hrest, ← hbetween, write]
    simp [Function.comp_def, String.append_assoc]

/-- The memory after a file was opened, filled with a text and closed. -/
def commit (memory : MemoryFiles) (path : Path) (text : String) : MemoryFiles :=
  ⟨store path text memory.files, memory.opened + 1, memory.closed + 1, none⟩

theorem file?_commit (memory : MemoryFiles) (path other : Path) (text : String) :
    (memory.commit path text).file? other =
      if path.sameAs other then some text else memory.file? other := by
  let filled : MemoryFiles :=
    { memory with opened := memory.opened + 1, buffer := some (path, text) }
  have hbuffer : filled.buffer = some (path, text) := rfl
  exact file?_close hbuffer other

theorem eq_commit_of_served {before final : MemoryFiles} {location : Location} {sent : List Sent}
    {closing : Except WriteError Unit}
    (h : sink.Served (before.openFile location) sent closing final) :
    final = before.commit location.relativePath (String.join (sent.map Prod.fst)) := by
  obtain ⟨written, hanswered, hclose⟩ := h
  have hfinal : written.close = final := congrArg Prod.snd hclose
  rw [← hfinal, answered_sink hanswered]
  simp only [openFile, Option.map_some, String.empty_append, close, commit]

/-- One file was opened and closed in between, and a text is stored under its path. -/
structure Stored (before after : MemoryFiles) (path : Path) (text : String) : Prop where
  opened : after.opened = before.opened + 1
  closed : after.closed = before.closed + 1
  buffer : after.buffer = none
  text : after.file? path = some text
  others (other : Path) (h : path.sameAs other = false) : after.file? other = before.file? other

theorem stored_commit (memory : MemoryFiles) (path : Path) (text : String) :
    memory.Stored (memory.commit path text) path text where
  opened := rfl
  closed := rfl
  buffer := rfl
  text := by rw [file?_commit, Path.sameAs_refl, if_pos rfl]
  others other h := by rw [file?_commit, h, if_neg Bool.false_ne_true]

end MemoryFiles

end FunctionForge
