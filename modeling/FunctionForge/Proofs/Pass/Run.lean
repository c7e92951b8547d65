import FunctionForge.Proofs.Pass.Visits

/-!
# What a pass asks of its sink

A pass opens its file, sends the texts before the first failing visit up to the first one that is
refused, and closes the file. All else that it does follows from the answers. This is an equation
between actions, so it holds in every monad.
-/

namespace FunctionForge.Pass

namespace Progress

def report (progress : Progress) (log : DiagnosticLog) : Progress :=
  { progress with log := progress.log ++ log }

def skip (progress : Progress) (name : String) : Progress :=
  { progress with skipped := progress.skipped ++ [name] }

def accept (progress : Progress) (text : String) : Progress :=
  { progress with
    writer := ⟨progress.writer.written + Text.size text⟩
    functions := progress.functions + 1 }

end Progress

variable (resolver : Resolver) (options : Options)

/-- What writing declarations comes to when the texts that are sent get these answers. -/
def account : List Declaration → Progress → List Sent → Except GenerationError Unit × Progress
  | [], progress, _ => (.ok (), progress)
  | declaration :: rest, progress, sent =>
    let progress := progress.report (declaration.function resolver options).2
    match (declaration.function resolver options).1, sent with
    | .error e, _ => (.error e, progress)
    | .ok none, sent => account rest (progress.skip declaration.qualifiedName) sent
    | .ok (some _), [] => (.ok (), progress)
    | .ok (some _), (_, .error e) :: _ => (.error (.io e), progress)
    | .ok (some _), (text, .ok ()) :: sent => account rest (progress.accept text) sent

/-- What a pass over declarations comes to when the texts that are sent, and then the closing, get
these answers. -/
def verdict (declarations : List Declaration) (location : Location) (sent : List Sent)
    (closing : Except WriteError Unit) : Except GenerationError Outcome × DiagnosticLog :=
  let (written, progress) := account resolver options declarations (.start ⟨0⟩) sent
  (conclude resolver declarations location written
    (closing.map fun _ => progress.writer.written) progress, progress.log)

section Step

variable {resolver options} {declaration : Declaration} {rest : List Declaration}
  {progress : Progress} {sent : List Sent}

theorem account_of_fatal {e : GenerationError}
    (h : (declaration.function resolver options).1 = .error e) :
    account resolver options (declaration :: rest) progress sent =
      (.error e, progress.report (declaration.function resolver options).2) := by
  simp only [account, h]

theorem account_of_skipped (h : (declaration.function resolver options).1 = .ok none) :
    account resolver options (declaration :: rest) progress sent =
      account resolver options rest
        ((progress.report (declaration.function resolver options).2).skip
          declaration.qualifiedName) sent := by
  simp only [account, h]

theorem account_of_refused {text : String} (e : WriteError)
    (h : (declaration.function resolver options).1 = .ok (some text)) :
    account resolver options (declaration :: rest) progress ((text, .error e) :: sent) =
      (.error (.io e), progress.report (declaration.function resolver options).2) := by
  simp only [account, h]

theorem account_of_accepted {text : String}
    (h : (declaration.function resolver options).1 = .ok (some text)) :
    account resolver options (declaration :: rest) progress ((text, .ok ()) :: sent) =
      account resolver options rest
        ((progress.report (declaration.function resolver options).2).accept text) sent := by
  simp only [account, h]

end Step

variable {resolver options} {m : Type → Type} [Monad m] [LawfulMonad m]

theorem writeAll_eq (sink : Sink m) (declarations : List Declaration) (progress : Progress) :
    writeAll sink resolver options declarations progress =
      account resolver options declarations progress <$>
        sink.writeEach (texts resolver options declarations) := by
  induction declarations generalizing progress with
  | nil => exact (map_pure (account resolver options [] progress) []).symm
  | cons declaration rest ih =>
    rw [writeAll]
    rcases hfunction : declaration.function resolver options with ⟨result, log⟩
    have hresult : (declaration.function resolver options).1 = result := by rw [hfunction]
    have hlog : (declaration.function resolver options).2 = log := by rw [hfunction]
    cases result with
    | error e =>
      rw [texts_cons_of_error hresult, Sink.writeEach, map_pure, account_of_fatal hresult, hlog]
      rfl
    | ok text? =>
      rw [texts_cons_of_ok hresult]
      cases text? with
      | none =>
        simp only [ih, Option.toList_none, List.nil_append]
        refine congrArg (· <$> _) (funext fun sent => ?_)
        rw [account_of_skipped hresult, hlog]
        rfl
      | some text =>
        simp only [Option.toList_some, List.singleton_append, Sink.writeEach, Writer.write,
          bind_assoc, map_bind]
        refine bind_congr fun answer => ?_
        cases answer with
        | error e =>
          rw [pure_bind, map_pure, account_of_refused e hresult, hlog]
          rfl
        | ok =>
          simp only [pure_bind, ih, map_bind, map_pure, account_of_accepted hresult, hlog]
          exact map_eq_pure_bind _ _

omit [LawfulMonad m] in
theorem run_of_not_annotated (sink : Sink m) {unit : CompilationUnit} (options : Options)
    (location : Location) (h : unit.annotatedWith functionAnnotation = []) :
    run sink unit options location = pure (.ok .nothing, []) := by
  rw [run, h, List.isEmpty_nil, if_pos rfl]

theorem run_eq (sink : Sink m) {unit : CompilationUnit} (options : Options) (location : Location)
    (h : unit.annotatedWith functionAnnotation ≠ []) :
    run sink unit options location = (do
      match ← sink.openFile location with
      | .error e => pure (.error (.io e), [])
      | .ok () => do
        let sent ← sink.writeEach
          (texts unit.resolver options (unit.annotatedWith functionAnnotation))
        let closing ← sink.close
        pure (verdict unit.resolver options (unit.annotatedWith functionAnnotation) location sent
          closing)) := by
  have hempty : (unit.annotatedWith functionAnnotation).isEmpty = false := by
    rw [List.isEmpty_eq_false_iff]
    exact h
  simp only [run, hempty, Bool.false_eq_true, if_false, Writer.begin, bind_assoc]
  refine bind_congr fun answer => ?_
  cases answer with
  | error e => simp only [pure_bind]
  | ok =>
    simp only [pure_bind, writeAll_eq, bind_map_left, Writer.close, bind_assoc]
    refine bind_congr fun sent => bind_congr fun closing => ?_
    cases closing <;> simp only [pure_bind, verdict] <;> rfl

/-- What an observer of the sink notes in a pass. -/
theorem run_observed_eq {ε : Type} {sink : Sink m} {observer : Sink (StateT (List ε) m)}
    {opening : Location → Except WriteError Unit → List ε} {sending : Sent → List ε}
    {noteClosing : Except WriteError Unit → List ε}
    (hobserves : sink.Observes observer opening sending noteClosing) {unit : CompilationUnit}
    (options : Options) (location : Location) (h : unit.annotatedWith functionAnnotation ≠ []) :
    (run observer unit options location).run [] = (do
      match ← sink.openFile location with
      | .error e => pure ((.error (.io e), []), opening location (.error e))
      | .ok () => do
        let sent ← sink.writeEach
          (texts unit.resolver options (unit.annotatedWith functionAnnotation))
        let closing ← sink.close
        pure (verdict unit.resolver options (unit.annotatedWith functionAnnotation) location sent
          closing, opening location (.ok ()) ++ sent.flatMap sending ++ noteClosing closing)) := by
  rw [run_eq observer options location h, StateT.run_bind, hobserves.openFile, bind_map_left]
  refine bind_congr fun answer => ?_
  cases answer with
  | error e => simp only [StateT.run_pure, List.nil_append]
  | ok =>
    simp only [StateT.run_bind, hobserves.writeEach, hobserves.close, bind_map_left,
      StateT.run_pure, List.nil_append]

/-- What the sink is asked, and in which order. -/
theorem run_recorded_eq (sink : Sink m) {unit : CompilationUnit} (options : Options)
    (location : Location) (h : unit.annotatedWith functionAnnotation ≠ []) :
    (run sink.recorded unit options location).run [] = (do
      match ← sink.openFile location with
      | .error e => pure ((.error (.io e), []), [.opened location.relativePath])
      | .ok () => do
        let sent ← sink.writeEach
          (texts unit.resolver options (unit.annotatedWith functionAnnotation))
        let closing ← sink.close
        pure (verdict unit.resolver options (unit.annotatedWith functionAnnotation) location sent
            closing, .opened location.relativePath ::
              sent.map (fun entry => .written entry.1) ++ [.closed])) := by
  rw [run_observed_eq sink.observes_recorded options location h]
  refine bind_congr fun answer => ?_
  cases answer with
  | error e => rfl
  | ok => simp only [List.map_eq_flatMap, List.cons_append, List.nil_append]

/-- Observing the sink changes nothing. -/
theorem fst_run_observed {ε : Type} {sink : Sink m} {observer : Sink (StateT (List ε) m)}
    {opening : Location → Except WriteError Unit → List ε} {sending : Sent → List ε}
    {noteClosing : Except WriteError Unit → List ε}
    (hobserves : sink.Observes observer opening sending noteClosing) (unit : CompilationUnit)
    (options : Options) (location : Location) :
    Prod.fst <$> (run observer unit options location).run [] =
      run sink unit options location := by
  by_cases h : unit.annotatedWith functionAnnotation = []
  · rw [run_of_not_annotated _ options location h, run_of_not_annotated _ options location h,
      StateT.run_pure, map_pure]
  · rw [run_observed_eq hobserves options location h, run_eq sink options location h, map_bind]
    refine bind_congr fun answer => ?_
    cases answer with
    | error e => simp only [map_pure]
    | ok => simp only [map_bind, map_pure]

theorem run_recorded_of_opened {σ : Type} {sink : Sink (StateM σ)} {unit : CompilationUnit}
    {options : Options} {location : Location} {start opened written final : σ}
    {sent : List Sent} {closing : Except WriteError Unit}
    (hannotated : unit.annotatedWith functionAnnotation ≠ [])
    (hopen : (sink.openFile location).run start = (.ok (), opened))
    (hsend : (sink.writeEach (texts unit.resolver options
      (unit.annotatedWith functionAnnotation))).run opened = (sent, written))
    (hclose : sink.close.run written = (closing, final)) :
    ((run sink.recorded unit options location).run []).run start =
      ((verdict unit.resolver options (unit.annotatedWith functionAnnotation) location sent closing,
        .opened location.relativePath ::
          sent.map (fun entry => .written entry.1) ++ [.closed]), final) := by
  rw [run_recorded_eq sink options location hannotated, run_bind_of_run_eq hopen]
  exact (run_bind_of_run_eq hsend _).trans (run_bind_of_run_eq hclose _)

end FunctionForge.Pass
