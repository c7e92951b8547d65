import FunctionForge.Output.File
import FunctionForge.Proofs.Output.Answer

/-!
# A file that is written through a buffer

A text that was taken is on the disk or waits. What the disk holds and what waits, one after the
other, are the texts that were taken, whatever the sizes of the texts and of the buffer are. Once
the file is closed nothing waits.

What a refused write leaves is left open. If it leaves the file as it is, what it was to write goes
on waiting, so giving up a file that cannot be closed leaves the beginning of the texts behind, and
never more.
-/

namespace FunctionForge

namespace FileOutput

variable {σ : Type} {disk : Disk (StateM σ)} {root path : Path} {holds leaves : σ → String → Prop}
  {state : σ} {taken waiting : String}

/-- A file that holds a text takes another behind it, or refuses that and leaves something else. -/
structure Appends (disk : Disk (StateM σ)) (path : Path) (holds leaves : σ → String → Prop) :
    Prop where
  accepted {state next : σ} {before text : String} (hholds : holds state before)
    (h : (disk.append path text).run state = (.ok (), next)) : holds next (before ++ text)
  refused {state next : σ} {before text : String} {e : DiskError} (hholds : holds state before)
    (h : (disk.append path text).run state = (.error e, next)) : leaves next before

/-- A file that grows unless the disk refuses. What it means that the disk refuses is left open. -/
abbrev Grows (disk : Disk (StateM σ)) (path : Path) (holds : σ → String → Prop) (refuses : Prop) :
    Prop :=
  Appends disk path holds fun _ _ => refuses

/-- A file that keeps to what it holds if it refuses more. -/
abbrev Endures (disk : Disk (StateM σ)) (path : Path) (holds : σ → String → Prop) : Prop :=
  Appends disk path holds holds

/-- What there is after requests: what the file holds, or what a refusal leaves of that. -/
def heldAfter (holds leaves : σ → String → Prop) : Option WriteError → σ → String → Prop
  | none => holds
  | some _ => leaves

/-- What is taken of a text by the answer to it. -/
def takenOf (text : String) : Except WriteError Unit → String
  | .ok () => text
  | .error _ => ""

/-- What the file holds and what waits make up the texts that were taken. -/
def Keeps (holds : σ → String → Prop) (taken waiting : String) (state : σ) : Prop :=
  ∃ before, holds state before ∧ before ++ waiting = taken

namespace Keeps

theorem of_holds (h : holds state taken) : Keeps holds taken "" state :=
  ⟨taken, h, String.append_empty⟩

theorem holds_of_empty (h : Keeps holds taken "" state) : holds state taken := by
  obtain ⟨before, hbefore, hall⟩ := h
  rw [String.append_empty] at hall
  exact hall ▸ hbefore

theorem wait (h : Keeps holds taken waiting state) (text : String) :
    Keeps holds (taken ++ text) (waiting ++ text) state := by
  obtain ⟨before, hbefore, rfl⟩ := h
  exact ⟨before, hbefore, String.append_assoc.symm⟩

/-- If a refusal leaves what the file holds, that is what there is after all requests. -/
theorem of_heldAfter {answer : Option WriteError}
    (h : Keeps (heldAfter holds holds answer) taken waiting state) :
    Keeps holds taken waiting state := by
  cases answer with
  | none => exact h
  | some e => exact h

end Keeps

theorem eq_empty_of_size_eq_zero {text : String} (h : Text.size text = 0) : text = "" := by
  rw [Text.size_eq_utf8ByteSize, String.utf8ByteSize_eq_zero_iff] at h
  exact h

namespace Appends

variable (h : Appends disk path holds leaves)

include h

theorem run_append (hholds : holds state taken) (text : String) :
    ∃ result next, (disk.append path text).run state = (result, next) ∧
      heldAfter holds leaves (failure? (failure path result)) next
        (taken ++ takenOf text (failure path result)) := by
  rcases happend : (disk.append path text).run state with ⟨result, next⟩
  refine ⟨result, next, rfl, ?_⟩
  cases result with
  | error e =>
    rw [failure, takenOf, String.append_empty]
    exact h.refused hholds happend
  | ok => exact h.accepted hholds happend

theorem run_flush (hkeeps : Keeps holds taken waiting state) :
    ∃ answer left next, (flush disk path waiting).run state = ((answer, left), next) ∧
      Keeps (heldAfter holds leaves (failure? answer)) taken left next ∧ left = match answer with
        | .ok () => ""
        | .error _ => waiting := by
  rw [flush]
  split
  · next hempty => exact ⟨.ok (), "", state, rfl, hempty ▸ hkeeps, rfl⟩
  · obtain ⟨before, hbefore, rfl⟩ := hkeeps
    obtain ⟨result, next, happend, hnext⟩ := h.run_append hbefore waiting
    rw [run_bind_of_run_eq happend]
    cases hresult : failure path result with
    | error e =>
      rw [hresult, takenOf, String.append_empty] at hnext
      exact ⟨.error e, waiting, next, rfl, ⟨before, hnext, rfl⟩, rfl⟩
    | ok =>
      rw [hresult] at hnext
      exact ⟨.ok (), "", next, rfl, .of_holds hnext, rfl⟩

/-- A text goes behind what waits or, if it is long, to the file. A long one is only sent while
nothing waits. -/
theorem run_follow (hkeeps : Keeps holds taken waiting state) (text : String)
    (hwaiting : Text.size text ≥ capacity → waiting = "") :
    ∃ answer left next,
      ((if Text.size text ≥ capacity then
          return (failure path (← disk.append path text), waiting)
        else pure (.ok (), waiting ++ text) :
          StateM σ (Except WriteError Unit × String)).run state) = ((answer, left), next) ∧
      Keeps (heldAfter holds leaves (failure? answer)) (taken ++ takenOf text answer) left
        next := by
  by_cases hlong : Text.size text ≥ capacity
  · obtain rfl := hwaiting hlong
    obtain ⟨result, next, happend, hnext⟩ := h.run_append hkeeps.holds_of_empty text
    rw [if_pos hlong, run_bind_of_run_eq happend]
    exact ⟨failure path result, "", next, rfl, .of_holds hnext⟩
  · rw [if_neg hlong]
    exact ⟨.ok (), waiting ++ text, state, rfl, hkeeps.wait text⟩

theorem run_take (hkeeps : Keeps holds taken waiting state) (text : String) :
    ∃ answer left next, (take disk path waiting text).run state = ((answer, left), next) ∧
      Keeps (heldAfter holds leaves (failure? answer)) (taken ++ takenOf text answer) left
        next := by
  rw [take]
  by_cases hroom : Text.size text < capacity - Text.size waiting
  · rw [if_pos hroom]
    exact ⟨.ok (), waiting ++ text, state, rfl, hkeeps.wait text⟩
  · rw [if_neg hroom]
    by_cases hfull : Text.size text > capacity - Text.size waiting
    · rw [if_pos hfull]
      obtain ⟨answer, left, between, hflush, hbetween, rfl⟩ := h.run_flush hkeeps
      rw [run_bind_of_run_eq hflush]
      cases answer with
      | error e =>
        refine ⟨.error e, waiting, between, rfl, ?_⟩
        rwa [takenOf, String.append_empty]
      | ok => exact h.run_follow hbetween text fun _ => rfl
    · rw [if_neg hfull, pure_bind]
      -- A text as long as the buffer has room in it only if nothing waits.
      refine h.run_follow hkeeps text fun hlong => eq_empty_of_size_eq_zero ?_
      have hcapacity : 0 < capacity := by decide
      omega

/-- Of texts that are sent in order the beginning is taken, and all of it if nothing is refused. -/
theorem run_writeEach {generated : List Path} (hkeeps : Keeps holds taken waiting state)
    (texts : List String) : ∃ sent left more rest next,
      (((sink disk root).writeEach texts).run ⟨generated, some (path, waiting)⟩).run state =
        ((sent, ⟨generated, some (path, left)⟩), next) ∧ Answers texts sent ∧
      Keeps (heldAfter holds leaves (refusal? sent)) (taken ++ more) left next ∧
      more ++ rest = String.join texts ∧ (refusal? sent = none → rest = "") := by
  induction texts generalizing state taken waiting with
  | nil =>
    refine ⟨[], waiting, "", "", state, rfl, .done, ?_, rfl, fun _ => rfl⟩
    rwa [String.append_empty]
  | cons text texts ih =>
    obtain ⟨answer, left, between, htake, hbetween⟩ := h.run_take hkeeps text
    have hwrite : (((sink disk root).write text).run ⟨generated, some (path, waiting)⟩).run state =
        ((answer, ⟨generated, some (path, left)⟩), between) := run_bind_of_run_eq htake _
    rw [Sink.writeEach, run_run_bind_of_run_eq hwrite]
    cases answer with
    | error e =>
      exact ⟨_, left, _, _, between, rfl, .refused text texts e, hbetween, String.empty_append,
        fun h => absurd h (Option.some_ne_none e)⟩
    | ok =>
      obtain ⟨sent, last, more, rest, next, hrest, hanswers, hnext, hall, hnone⟩ := ih hbetween
      refine ⟨(text, .ok ()) :: sent, last, text ++ more, rest, next, ?_, .accepted hanswers, ?_, ?_,
        hnone⟩
      · rw [run_run_bind_of_run_eq hrest]
        rfl
      · rwa [← String.append_assoc]
      · rw [String.join_cons, String.append_assoc, hall]

/-- Closing writes what still waits. If that is refused, it is tried once more, and nobody is told
whether that works. -/
theorem run_close {generated : List Path} (hkeeps : Keeps holds taken waiting state) :
    ∃ answer output next,
      ((sink disk root).close.run ⟨generated, some (path, waiting)⟩).run state =
        ((answer, output), next) ∧
      (answer = .ok () → output = ⟨generated ++ [path], none⟩ ∧ holds next taken) ∧
      (answer ≠ .ok () → output = ⟨generated, none⟩ ∧ ∃ between,
        Keeps leaves taken waiting between ∧
          ((flush disk path waiting).run between).2 = next) := by
  obtain ⟨answer, left, between, hflush, hbetween, rfl⟩ := h.run_flush hkeeps
  have hclose : ((sink disk root).close.run ⟨generated, some (path, waiting)⟩).run state = _ :=
    run_bind_of_run_eq hflush _
  cases answer with
  | ok =>
    exact ⟨.ok (), _, between, hclose, fun _ => ⟨rfl, hbetween.holds_of_empty⟩,
      fun hne => absurd rfl hne⟩
  | error e =>
    rcases hagain : (flush disk path waiting).run between with ⟨⟨again, left⟩, next⟩
    have habandon : (abandon disk ⟨generated, some (path, waiting)⟩).run between =
        (⟨generated, none⟩, next) := run_bind_of_run_eq hagain _
    exact ⟨.error e, ⟨generated, none⟩, next, hclose.trans (run_bind_of_run_eq habandon _), nofun,
      fun _ => ⟨rfl, between, hbetween, congrArg Prod.snd hagain⟩⟩

end Appends

/-- A file that is closed holds all that was taken, and one that is given up the beginning of it. -/
theorem Endures.run_close {generated : List Path} (h : Endures disk path holds)
    (hkeeps : Keeps holds taken waiting state) :
    ∃ answer output next,
      ((sink disk root).close.run ⟨generated, some (path, waiting)⟩).run state =
        ((answer, output), next) ∧
      (answer = .ok () → output = ⟨generated ++ [path], none⟩ ∧ holds next taken) ∧
      (answer ≠ .ok () → output = ⟨generated, none⟩ ∧
        ∃ before rest, holds next before ∧ before ++ rest = taken) := by
  obtain ⟨answer, output, next, hclose, hok, herror⟩ := Appends.run_close h hkeeps
  refine ⟨answer, output, next, hclose, hok, fun hanswer => ?_⟩
  obtain ⟨houtput, between, hbetween, hnext⟩ := herror hanswer
  obtain ⟨again, left, last, hagain, hlast, -⟩ := h.run_flush hbetween
  obtain ⟨before, hbefore, hall⟩ := hlast.of_heldAfter
  rw [hagain] at hnext
  exact ⟨houtput, before, left, hnext ▸ hbefore, hall⟩

/-- A file is opened, takes texts and is closed, and no request fails. -/
structure Accepts (disk : Disk (StateM σ)) (root : Path) (location : Location)
    (texts : List String) (start final : σ) : Prop where
  exists_run : ∃ opened written between late,
    (((sink disk root).openFile location).run .empty).run start = ((.ok (), opened), between) ∧
    (((sink disk root).writeEach texts).run opened).run between =
      ((texts.map fun text => (text, .ok ()), written), late) ∧
    ((sink disk root).close.run written).run late =
      ((.ok (), ⟨[root.join location.relativePath], none⟩), final)

theorem run_openFile_eq_ok_iff {opened : FileOutput} {location : Location} {start next : σ} :
    (((sink disk root).openFile location).run .empty).run start = ((.ok (), opened), next) ↔
      opened = ⟨[], some (root.join location.relativePath, "")⟩ ∧
      ∃ between,
        (makeParent disk (root.join location.relativePath)).run start = (.ok (), between) ∧
        (disk.create (root.join location.relativePath)).run between = (.ok (), next) := by
  change (openFile disk root .empty location).run start = _ ↔ _
  rw [openFile]
  rcases hparent : (makeParent disk (root.join location.relativePath)).run start with
    ⟨answer, between⟩
  rw [run_bind_of_run_eq hparent]
  cases answer with
  | error e =>
    refine ⟨fun h => ?_, fun ⟨_, _, h, _⟩ => ?_⟩
    · cases h
    · cases h
  | ok =>
    rcases hcreate : (disk.create (root.join location.relativePath)).run between with
      ⟨result, last⟩
    simp only
    rw [run_bind_of_run_eq hcreate]
    cases result with
    | error e =>
      refine ⟨fun h => ?_, fun ⟨_, _, hparent, hcreate'⟩ => ?_⟩
      · cases h
      · cases hparent
        rw [hcreate] at hcreate'
        cases hcreate'
    | ok =>
      refine ⟨fun h => ?_, fun ⟨hopened, _, hparent, hcreate'⟩ => ?_⟩
      · cases h
        exact ⟨rfl, between, rfl, hcreate⟩
      · cases hparent
        rw [hcreate] at hcreate'
        cases hcreate'
        rw [hopened]
        rfl

/-- A file that was opened is sent texts and closed. If all of that succeeds it holds the texts. -/
theorem exists_run_of_opened {location : Location} {start between : σ} {refuses : Prop}
    (hgrows : Grows disk (root.join location.relativePath) holds refuses)
    (hopen : (((sink disk root).openFile location).run .empty).run start =
      ((.ok (), ⟨[], some (root.join location.relativePath, "")⟩), between))
    (hholds : holds between "") (texts : List String) :
    ∃ sent closing written output late final,
      (((sink disk root).writeEach texts).run
        ⟨[], some (root.join location.relativePath, "")⟩).run between = ((sent, written), late) ∧
      ((sink disk root).close.run written).run late = ((closing, output), final) ∧
      Answers texts sent ∧
      (refusal? sent = none → closing = .ok () →
        Accepts disk root location texts start final ∧ holds final (String.join texts)) ∧
      (¬ (refusal? sent = none ∧ closing = .ok ()) → refuses) := by
  obtain ⟨sent, left, more, rest, late, hsend, hanswers, hkeeps, hall, hrest⟩ :=
    hgrows.run_writeEach (.of_holds hholds) texts
  cases hsent : refusal? sent with
  | none =>
    rw [hsent] at hkeeps
    obtain rfl := hrest hsent
    rw [String.append_empty] at hall
    rw [String.empty_append, hall] at hkeeps
    obtain ⟨closing, output, final, hclose, hclosed, hrefused⟩ := Appends.run_close hgrows hkeeps
    refine ⟨sent, closing, _, output, late, final, hsend, hclose, hanswers, fun _ hclosing => ?_,
      fun h => ?_⟩
    · obtain ⟨rfl, hfinal⟩ := hclosed hclosing
      rw [hanswers.eq_of_accepted (refusal?_eq_none_iff.1 hsent)] at hsend
      rw [hclosing] at hclose
      exact ⟨⟨_, _, between, late, hopen, hsend, hclose⟩, hfinal⟩
    · obtain ⟨-, -, ⟨-, hrefuses, -⟩, -⟩ := hrefused fun hclosing => h ⟨hsent, hclosing⟩
      exact hrefuses
  | some e =>
    rw [hsent] at hkeeps
    obtain ⟨_, hrefuses, -⟩ := hkeeps
    rcases hclose : ((sink disk root).close.run
      ⟨[], some (root.join location.relativePath, left)⟩).run late with ⟨⟨closing, output⟩, final⟩
    exact ⟨sent, closing, _, output, late, final, hsend, hclose, hanswers,
      fun h => absurd (hsent.symm.trans h) (Option.some_ne_none e), fun _ => hrefuses⟩

end FileOutput

end FunctionForge
