import FunctionForge.Proofs.Pass.Run

/-!
# The protocol between a pass and its sink

Opening, every write and closing may each fail, and so may every visit. Whatever happens, a file
that was opened is closed once, no text follows a failure, and the pass fails with the earliest
failure.
-/

namespace FunctionForge.Pass

variable {resolver : Resolver} {options : Options} {declarations : List Declaration}
  {sent : List Sent}

/-- How visits and the answers to their texts follow each other, up to the first failure. -/
inductive Course (resolver : Resolver) (options : Options) : List Declaration → List Sent → Prop
  | done : Course resolver options [] []
  | fatal {declaration : Declaration} {e : GenerationError} (rest : List Declaration)
      (hresult : (declaration.function resolver options).1 = .error e) :
      Course resolver options (declaration :: rest) []
  | skipped {declaration : Declaration} {rest : List Declaration} {sent : List Sent}
      (hresult : (declaration.function resolver options).1 = .ok none)
      (hrest : Course resolver options rest sent) :
      Course resolver options (declaration :: rest) sent
  | accepted {declaration : Declaration} {text : String} {rest : List Declaration}
      {sent : List Sent} (hresult : (declaration.function resolver options).1 = .ok (some text))
      (hrest : Course resolver options rest sent) :
      Course resolver options (declaration :: rest) ((text, .ok ()) :: sent)
  | refused {declaration : Declaration} {text : String} (rest : List Declaration) (e : WriteError)
      (hresult : (declaration.function resolver options).1 = .ok (some text)) :
      Course resolver options (declaration :: rest) [(text, .error e)]

theorem Course.of_answers (h : Answers (texts resolver options declarations) sent) :
    Course resolver options declarations sent := by
  induction declarations generalizing sent with
  | nil =>
    cases h
    exact .done
  | cons declaration rest ih =>
    cases hresult : (declaration.function resolver options).1 with
    | error e =>
      rw [texts_cons_of_error hresult] at h
      cases h
      exact .fatal rest hresult
    | ok text? =>
      rw [texts_cons_of_ok hresult] at h
      cases text? with
      | none => exact .skipped hresult (ih h)
      | some text =>
        cases h with
        | accepted hsent => exact .accepted hresult (ih hsent)
        | refused _ _ e => exact .refused rest e hresult

namespace Course

/-- A refused write is earlier than a failed visit: a text is only sent if all visits up to its own
succeeded. -/
theorem failure?_account (h : Course resolver options declarations sent) (progress : Progress) :
    failure? (account resolver options declarations progress sent).1 =
      ((refusal? sent).map .io).or (firstFatal? resolver options declarations) := by
  induction h generalizing progress with
  | done => rfl
  | fatal rest hresult =>
    rw [account_of_fatal hresult, firstFatal?_cons_of_error hresult]
    rfl
  | skipped hresult _ ih => rw [account_of_skipped hresult, firstFatal?_cons_of_ok hresult, ih]
  | accepted hresult _ ih =>
    rw [account_of_accepted hresult, firstFatal?_cons_of_ok hresult, ih]
    rfl
  | refused rest e hresult =>
    rw [account_of_refused e hresult]
    rfl

theorem written_account (h : Course resolver options declarations sent) (progress : Progress) :
    (account resolver options declarations progress sent).2.writer.written =
      progress.writer.written + acceptedSize sent := by
  induction h generalizing progress with
  | done => rfl
  | fatal rest hresult =>
    rw [account_of_fatal hresult]
    rfl
  | skipped hresult _ ih =>
    rw [account_of_skipped hresult, ih]
    rfl
  | accepted hresult _ ih =>
    rw [account_of_accepted hresult, ih, acceptedSize, ← Nat.add_assoc]
    rfl
  | refused rest e hresult =>
    rw [account_of_refused e hresult]
    rfl

end Course

theorem failure?_conclude (annotated : List Declaration) (location : Location)
    (written : Except GenerationError Unit) (closed : Except WriteError Nat) (progress : Progress) :
    failure? (conclude resolver annotated location written closed progress) =
      (failure? written).or ((failure? closed).map .io) := by
  cases written <;> cases closed <;> rfl

theorem failure?_verdict (location : Location) (closing : Except WriteError Unit)
    (h : Answers (texts resolver options declarations) sent) :
    failure? (verdict resolver options declarations location sent closing).1 =
      ((refusal? sent).map .io).or
        ((firstFatal? resolver options declarations).or ((failure? closing).map .io)) := by
  rw [verdict, failure?_conclude, (Course.of_answers h).failure?_account, Option.or_assoc]
  cases closing <;> rfl

theorem exists_ok_verdict_iff (location : Location) (closing : Except WriteError Unit)
    (h : Answers (texts resolver options declarations) sent) :
    (∃ outcome, (verdict resolver options declarations location sent closing).1 = .ok outcome) ↔
      (∀ declaration ∈ declarations, declaration.fatal? resolver options = none) ∧
      (∀ entry ∈ sent, entry.2 = .ok ()) ∧ closing = .ok () := by
  rw [← failure?_eq_none_iff, failure?_verdict location closing h, Option.or_eq_none_iff,
    Option.or_eq_none_iff, Option.map_eq_none_iff, Option.map_eq_none_iff, refusal?_eq_none_iff,
    firstFatal?_eq_none_iff, failure?_answer_eq_none_iff]
  exact and_left_comm

/-- The course of a pass against a sink that answers as it likes. -/
theorem run_keeps_protocol {σ : Type} (sink : Sink (StateM σ)) (unit : CompilationUnit)
    (options : Options) (location : Location) (start : σ) :
    let annotated := unit.annotatedWith functionAnnotation
    let pass := ((run sink.recorded unit options location).run []).run start
    let result := pass.1.1.1
    let events := pass.1.2
    let final := pass.2
    (annotated = [] → events = [] ∧ result = .ok .nothing ∧ final = start) ∧
    (annotated ≠ [] → ∀ opened,
      (∀ e, (sink.openFile location).run start = (.error e, opened) →
        events = [.opened location.relativePath] ∧ result = .error (.io e) ∧ final = opened) ∧
      ((sink.openFile location).run start = (.ok (), opened) → ∃ sent closing,
        sink.Served opened sent closing final ∧
        events = .opened location.relativePath ::
          sent.map (fun entry => .written entry.1) ++ [.closed] ∧
        sent.map Prod.fst <+: texts unit.resolver options annotated ∧
        (∀ entry ∈ sent.dropLast, entry.2 = .ok ()) ∧
        (refusal? sent = none → sent.map Prod.fst = texts unit.resolver options annotated) ∧
        ((∃ outcome, result = .ok outcome) ↔
          (∀ declaration ∈ annotated, declaration.fatal? unit.resolver options = none) ∧
          (∀ entry ∈ sent, entry.2 = .ok ()) ∧ closing = .ok ()) ∧
        failure? result = ((refusal? sent).map .io).or
          ((firstFatal? unit.resolver options annotated).or ((failure? closing).map .io)) ∧
        ((writeAll sink unit.resolver options annotated
          (.start ⟨0⟩)).run opened).1.2.writer.written = acceptedSize sent)) := by
  intro annotated pass result events final
  refine ⟨fun hnone => ?_, fun hsome opened => ⟨fun e hopen => ?_, fun hopen => ?_⟩⟩
  · have hpass : pass = (((.ok .nothing, []), []), start) := by
      simp only [pass, run_of_not_annotated _ options location hnone]
      rfl
    exact ⟨congrArg (·.1.2) hpass, congrArg (·.1.1.1) hpass, congrArg (·.2) hpass⟩
  · have hpass : pass = (((.error (.io e), []), [.opened location.relativePath]), opened) := by
      simp only [pass, run_recorded_eq sink options location hsome, StateT.run_bind, hopen]
      rfl
    exact ⟨congrArg (·.1.2) hpass, congrArg (·.1.1.1) hpass, congrArg (·.2) hpass⟩
  · obtain ⟨sent, written, hsend, hanswered, hanswers⟩ :=
      sink.run_writeEach (texts unit.resolver options annotated) opened
    rcases hclose : sink.close.run written with ⟨closing, last⟩
    have hpass := run_recorded_of_opened hsome hopen hsend hclose
    have hresult : result =
        (verdict unit.resolver options annotated location sent closing).1 :=
      congrArg (·.1.1.1) hpass
    have hfinal : final = last := congrArg (·.2) hpass
    have hwritten : ((writeAll sink unit.resolver options annotated
        (.start ⟨0⟩)).run opened).1.2.writer.written = acceptedSize sent := by
      rw [writeAll_eq, StateT.run_map, hsend]
      exact ((Course.of_answers hanswers).written_account (.start ⟨0⟩)).trans (Nat.zero_add _)
    refine ⟨sent, closing, ⟨written, hanswered, hfinal ▸ hclose⟩, congrArg (·.1.2) hpass,
      hanswers.prefix_texts, hanswers.accepted_of_mem_dropLast, fun haccepted => ?_, ?_, ?_,
      hwritten⟩
    · rw [hanswers.eq_of_accepted (refusal?_eq_none_iff.1 haccepted), List.map_map]
      exact List.map_id _
    · rw [hresult]
      exact exists_ok_verdict_iff location closing hanswers
    · rw [hresult]
      exact failure?_verdict location closing hanswers

end FunctionForge.Pass
