import Mathlib.Logic.Relation
import FunctionForge.Proofs.TypeExpr.Account
import FunctionForge.Proofs.TypeExpr.Refusal

/-!
# The rounds of the reader

The reader goes on in rounds. An inner round places one argument, and an outer round reads a type or a
star and places what is complete by then. Every round that goes on consumes a token, and none consumes
the end of the text, so the reader comes to a stop and never runs past the end. As the outermost open
type is not projected on the way, three of its ways out are never taken: that of a type without its
name, that of a closing bracket without a type that it closes, and that of a whole type that is
projected.
-/

namespace FunctionForge.TypeExpr

open Text Relation

/-- The faults of the ways out that no text leads to. -/
inductive Fault.IsGuard : Fault → Prop
  | lostName (found : Token) : IsGuard (.lostName found)
  | unopenedClosing (found : Token) : IsGuard (.unopenedClosing found)
  | projectedRoot : IsGuard .projectedRoot

namespace Reader

/-! ### Rounds -/

/-- A round of the inner loop: an argument is placed, and the reader goes on. -/
def InnerRound (reader after : Reader) : Prop :=
  (∃ argument, reader.task = .place argument) ∧ reader.step = .next after

/-- A round of the outer loop: a type or a star is read, and arguments are placed as long as there are
any, up to where the next one is read. -/
def OuterRound (reader after : Reader) : Prop :=
  reader.task = .read ∧ after.task = .read ∧
    ∃ middle, reader.step = .next middle ∧ ReflTransGen InnerRound middle after

/-- One reader has consumed tokens that the other has still to read, at least one and not the end of
the text. -/
def Consumes (reader after : Reader) : Prop :=
  ∃ consumed, reader.tokens = consumed ++ after.tokens ∧ consumed ≠ [] ∧
    .finish ∉ consumed.map Located.token

theorem Consumes.trans {reader middle after : Reader} (hfirst : Consumes reader middle)
    (hrest : Consumes middle after) : Consumes reader after := by
  obtain ⟨front, htokens, hfront, hfinish⟩ := hfirst
  obtain ⟨back, htokens', -, hfinish'⟩ := hrest
  refine ⟨front ++ back, ?_, List.append_ne_nil_of_left_ne_nil hfront back, ?_⟩
  · rw [htokens, htokens', List.append_assoc]
  · rw [List.map_append, List.mem_append, not_or]
    exact ⟨hfinish, hfinish'⟩

theorem consumes_of_step {reader after : Reader} (h : reader.step = .next after) :
    Consumes reader after := by
  obtain ⟨consumed, htokens, hfinish, -⟩ := step_isLocal h
  refine ⟨consumed, htokens, ?_, hfinish⟩
  rintro rfl
  have hshorter := step_shorter h
  rw [show reader.tokens = after.tokens from htokens] at hshorter
  exact Nat.lt_irrefl _ hshorter

theorem InnerRound.consumes {reader after : Reader} (h : InnerRound reader after) :
    Consumes reader after := consumes_of_step h.2

theorem OuterRound.consumes {reader after : Reader} (h : OuterRound reader after) :
    Consumes reader after := by
  obtain ⟨-, -, middle, hstep, hplaced⟩ := h
  induction hplaced with
  | refl => exact consumes_of_step hstep
  | tail _ hround ih => exact ih.trans hround.consumes

/-! ### Runs -/

/-- The readers that a reader comes to, each with the number of steps on the way. -/
inductive Reaches (reader : Reader) : Nat → Reader → Prop
  | start : Reaches reader 0 reader
  | step {n : Nat} {middle after : Reader} (hreached : Reaches reader n middle)
      (hstep : middle.step = .next after) : Reaches reader (n + 1) after

theorem Reaches.head {reader middle last : Reader} {n : Nat} (hstep : reader.step = .next middle)
    (h : Reaches middle n last) : Reaches reader (n + 1) last := by
  induction h with
  | start => exact .step .start hstep
  | step _ hstep' ih => exact .step ih hstep'

/-- A run comes to a step at which it stops. -/
theorem exists_stop (reader : Reader) :
    ∃ n last result, Reaches reader n last ∧ last.step = .stop result ∧ reader.run = result := by
  fun_induction run reader with
  | case1 reader after hstep ih =>
    obtain ⟨n, last, result, hreached, hlast, hresult⟩ := ih
    exact ⟨n + 1, last, result, hreached.head hstep, hlast, hresult⟩
  | case2 reader result hstep => exact ⟨0, reader, result, .start, hstep, rfl⟩

/-- What holds of a reader on its way through a text: the bottom of its stack is not projected, and
the end of the text is still ahead, behind all other tokens. -/
structure OnTheWay (source : String) (reader : Reader) : Prop where
  rooted : Rooted reader
  ahead : ∃ others, reader.tokens = others ++ [⟨.finish, size source⟩] ∧
    .finish ∉ others.map Located.token

variable {source : String}

theorem OnTheWay.start {tokens : List Located} (hscan : scan 0 source.toList = .ok tokens) :
    OnTheWay source (Reader.start tokens) :=
  ⟨.start tokens, (scan_eq_ok_iff.1 hscan).accounts.finish⟩

/-- A step that goes on leaves the end of the text ahead. -/
theorem OnTheWay.step {reader after : Reader} (h : OnTheWay source reader)
    (hstep : reader.step = .next after) : OnTheWay source after := by
  refine ⟨h.rooted.step hstep, ?_⟩
  obtain ⟨consumed, htokens, -, hfinish⟩ := consumes_of_step hstep
  obtain ⟨others, hothers, hnone⟩ := h.ahead
  rw [htokens] at hothers
  rcases List.append_eq_append_iff.1 hothers with ⟨middle, rfl, hafter⟩ | ⟨middle, rfl, hend⟩
  · refine ⟨middle, hafter, ?_⟩
    rw [List.map_append, List.mem_append, not_or] at hnone
    exact hnone.2
  · cases middle with
    | nil => exact ⟨[], hend.symm, List.not_mem_nil⟩
    | cons next middle =>
      obtain ⟨rfl, -⟩ := List.cons.inj hend
      exact absurd (by simp) hfinish

theorem OnTheWay.reaches {reader last : Reader} {n : Nat} (h : OnTheWay source reader)
    (hreached : Reaches reader n last) : OnTheWay source last := by
  induction hreached with
  | start => exact h
  | step _ hstep ih => exact ih.step hstep

/-- Every step of a run consumes a token. -/
theorem Reaches.add_length_le {reader last : Reader} {n : Nat} (h : Reaches reader n last) :
    n + last.tokens.length ≤ reader.tokens.length := by
  induction h with
  | start => omega
  | step _ hstep ih =>
    have hshorter := step_shorter hstep
    omega

/-- On the way through a text, the reader stops with an error only at a mismatch. -/
theorem OnTheWay.not_isGuard {reader : Reader} {e : ParseError} (h : OnTheWay source reader)
    (hstop : reader.step = .stop (.error e)) : ¬e.fault.IsGuard := by
  obtain ⟨task, opened, tokens⟩ := reader
  obtain ⟨⟨expected, rfl⟩, -⟩ := h.rooted.step_refuses hstop
  intro hguard
  cases tokens <;> cases hguard

/-- Whatever tokens a text is made of, the reader consumes one of them in every round that goes on and
keeps the end of the text ahead, so it stops after fewer steps than there are tokens. On the way the
outermost open type is never projected, and no step stops with the fault of a guard. -/
theorem reader_comes_to_a_stop {tokens : List Located}
    (hscan : scan 0 source.toList = .ok tokens) :
    (∀ n reader, Reaches (start tokens) n reader →
      (∀ after, InnerRound reader after ∨ OuterRound reader after → Consumes reader after) ∧
      (∃ others, reader.tokens = others ++ [⟨.finish, size source⟩] ∧
        .finish ∉ others.map Located.token) ∧
      (∀ t ∈ reader.opened.getLast?, t.projection = .invariant) ∧
      ∀ e, reader.step = .stop (.error e) → ¬e.fault.IsGuard) ∧
    ∃ n last result, n < tokens.length ∧ Reaches (start tokens) n last ∧
      last.step = .stop result ∧ parse source = result := by
  constructor
  · intro n reader hreached
    have hway := (OnTheWay.start hscan).reaches hreached
    refine ⟨?_, hway.ahead, hway.rooted.outermost, fun e hstop => hway.not_isGuard hstop⟩
    rintro after (hround | hround)
    · exact hround.consumes
    · exact hround.consumes
  · obtain ⟨n, last, result, hreached, hstop, hrun⟩ := exists_stop (start tokens)
    refine ⟨n, last, result, ?_, hreached, hstop, (parse_eq_run hscan).trans hrun⟩
    obtain ⟨others, hothers, -⟩ := ((OnTheWay.start hscan).reaches hreached).ahead
    have hle : n + last.tokens.length ≤ tokens.length := hreached.add_length_le
    rw [hothers, List.length_append, List.length_singleton] at hle
    omega

/-- The second bracket of `A<in B>>` finds no open type, but the text should have ended before it. -/
theorem reader_comes_to_a_stop_at_second_closing :
    ∃ tokens reader, scan 0 "A<in B>>".toList = .ok tokens ∧ Reaches (start tokens) 3 reader ∧
      reader.opened = [] ∧ reader.step = .stop (.error ⟨.mismatch .finish .closing, 7⟩) ∧
      ¬(Fault.mismatch .finish .closing).IsGuard ∧
      ∃ n last result, n < tokens.length ∧ Reaches (start tokens) n last ∧
        last.step = .stop result ∧ parse "A<in B>>" = result := by
  obtain ⟨tokens, hscan, hreached⟩ : ∃ tokens, scan 0 "A<in B>>".toList = .ok tokens ∧
      Reaches (start tokens) 3 ⟨.place (.projected .invariant (.mk "A" false
        [.projected .contravariant (.mk "B" false [])])), [], [⟨.closing, 7⟩, ⟨.finish, 8⟩]⟩ :=
    ⟨[⟨.name "A", 0⟩, ⟨.opening, 1⟩, ⟨.name "in", 2⟩, ⟨.name "B", 5⟩, ⟨.closing, 6⟩,
      ⟨.closing, 7⟩, ⟨.finish, 8⟩], by decide +kernel, .step (.step (.step .start rfl) rfl) rfl⟩
  obtain ⟨hrounds, hstops⟩ := reader_comes_to_a_stop hscan
  obtain ⟨-, -, -, hguard⟩ := hrounds 3 _ hreached
  exact ⟨tokens, _, hscan, hreached, rfl, rfl, hguard _ rfl, hstops⟩

end Reader

end FunctionForge.TypeExpr
