import FunctionForge.Generator
import FunctionForge.Proofs.Pass.Protocol

/-!
# A pass as a fold

Against a sink that never fails, a pass is the fold of its visits in source order: interfaces give
texts, other declarations are skipped, and the first visit that fails ends the pass. Memory is such
a sink, and what a pass into it comes to does not depend on what is stored there.
-/

namespace FunctionForge

namespace Pass

def interfaces (declarations : List Declaration) : List Declaration :=
  declarations.filter fun declaration => declaration.kind = .interface

def others (declarations : List Declaration) : List Declaration :=
  declarations.filter fun declaration => declaration.kind ≠ .interface

section Kinds

variable {declaration : Declaration}

theorem interfaces_cons_of_interface (h : declaration.kind = .interface)
    (rest : List Declaration) :
    interfaces (declaration :: rest) = declaration :: interfaces rest :=
  List.filter_cons_of_pos (decide_eq_true h)

theorem interfaces_cons_of_other (h : declaration.kind ≠ .interface) (rest : List Declaration) :
    interfaces (declaration :: rest) = interfaces rest :=
  List.filter_cons_of_neg (Bool.eq_false_iff.1 (decide_eq_false h))

theorem others_cons_of_interface (h : declaration.kind = .interface) (rest : List Declaration) :
    others (declaration :: rest) = others rest :=
  List.filter_cons_of_neg (Bool.eq_false_iff.1 (decide_eq_false (Decidable.not_not.2 h)))

theorem others_cons_of_other (h : declaration.kind ≠ .interface) (rest : List Declaration) :
    others (declaration :: rest) = declaration :: others rest :=
  List.filter_cons_of_pos (decide_eq_true h)

theorem length_interfaces_add_others (declarations : List Declaration) :
    (interfaces declarations).length + (others declarations).length = declarations.length := by
  induction declarations with
  | nil => rfl
  | cons declaration rest ih =>
    by_cases hkind : declaration.kind = .interface
    · rw [interfaces_cons_of_interface hkind, others_cons_of_interface hkind, List.length_cons,
        List.length_cons]
      omega
    · rw [interfaces_cons_of_other hkind, others_cons_of_other hkind, List.length_cons,
        List.length_cons]
      omega

end Kinds

variable (resolver : Resolver) (options : Options)

def reports (declarations : List Declaration) : DiagnosticLog :=
  declarations.flatMap fun declaration => (declaration.function resolver options).2

/-- The progress after visits that succeed and texts that are accepted. -/
def Progress.after (progress : Progress) (declarations : List Declaration) : Progress where
  writer := ⟨progress.writer.written +
    Text.size (String.join (visited resolver options declarations))⟩
  functions := progress.functions + (interfaces declarations).length
  skipped := progress.skipped ++ (others declarations).map Declaration.qualifiedName
  log := progress.log ++ reports resolver options declarations

variable {resolver options} {declaration : Declaration} {rest : List Declaration}

theorem Progress.after_nil (progress : Progress) :
    progress.after resolver options [] = progress := by
  have hsize : Text.size "" = 0 := rfl
  simp [Progress.after, visited, interfaces, others, reports, hsize]

theorem Progress.after_skipped (progress : Progress)
    (h : (declaration.function resolver options).1 = .ok none) :
    ((progress.report (declaration.function resolver options).2).skip
      declaration.qualifiedName).after resolver options rest =
        progress.after resolver options (declaration :: rest) := by
  have hkind := (declaration.function_eq_ok_none_iff resolver options).1 h
  have htext : declaration.text? resolver options = none := by rw [Declaration.text?, h]
  simp [Progress.after, Progress.report, Progress.skip, visited, reports, htext,
    interfaces_cons_of_other hkind, others_cons_of_other hkind]

theorem Progress.after_accepted (progress : Progress) {text : String}
    (h : (declaration.function resolver options).1 = .ok (some text)) :
    ((progress.report (declaration.function resolver options).2).accept text).after resolver options
      rest = progress.after resolver options (declaration :: rest) := by
  have hkind := Declaration.interface_of_text h
  have htext : declaration.text? resolver options = some text := by rw [Declaration.text?, h]
  simp [Progress.after, Progress.report, Progress.accept, visited, reports, htext,
    interfaces_cons_of_interface hkind, others_cons_of_interface hkind, Nat.add_assoc,
    Nat.add_comm 1]

/-- The induction is on the visits that succeed; what comes after them is left to be done. -/
theorem account_append {before : List Declaration}
    (hbefore : ∀ declaration ∈ before, declaration.fatal? resolver options = none)
    (rest : List Declaration) (progress : Progress) (sent : List Sent) :
    account resolver options (before ++ rest) progress
        ((visited resolver options before).map (fun text => (text, .ok ())) ++ sent) =
      account resolver options rest (progress.after resolver options before) sent := by
  induction before generalizing progress with
  | nil =>
    rw [Progress.after_nil]
    rfl
  | cons declaration before ih =>
    obtain ⟨hvisit, hbefore⟩ := List.forall_mem_cons.1 hbefore
    obtain ⟨text?, hresult⟩ := failure?_eq_none_iff.1 hvisit
    have htext : declaration.text? resolver options = text? := by rw [Declaration.text?, hresult]
    rw [visited, List.cons_append]
    cases text? with
    | none =>
      rw [List.filterMap_cons_none htext, account_of_skipped hresult, ← visited, ih hbefore,
        Progress.after_skipped progress hresult]
    | some text =>
      rw [List.filterMap_cons_some htext, List.map_cons, List.cons_append,
        account_of_accepted hresult, ← visited, ih hbefore,
        Progress.after_accepted progress hresult]

theorem map_interfaces {declarations : List Declaration}
    (hall : ∀ declaration ∈ declarations, declaration.fatal? resolver options = none) :
    (interfaces declarations).map (fun declaration => (declaration.function resolver options).1) =
      (visited resolver options declarations).map fun text => .ok (some text) := by
  induction declarations with
  | nil => rfl
  | cons declaration rest ih =>
    obtain ⟨hvisit, hrest⟩ := List.forall_mem_cons.1 hall
    obtain ⟨text?, hresult⟩ := failure?_eq_none_iff.1 hvisit
    have htext : declaration.text? resolver options = text? := by rw [Declaration.text?, hresult]
    rw [visited]
    cases text? with
    | none =>
      have hkind := (declaration.function_eq_ok_none_iff resolver options).1 hresult
      rw [List.filterMap_cons_none htext, interfaces_cons_of_other hkind]
      exact ih hrest
    | some text =>
      have hkind := Declaration.interface_of_text hresult
      rw [List.filterMap_cons_some htext, interfaces_cons_of_interface hkind, List.map_cons,
        List.map_cons, hresult, ih hrest, visited]

theorem verdict_of_all {declarations : List Declaration} (location : Location)
    (hall : ∀ declaration ∈ declarations, declaration.fatal? resolver options = none) :
    verdict resolver options declarations location
        ((visited resolver options declarations).map fun text => (text, .ok ())) (.ok ()) =
      (.ok ⟨some location.relativePath, (interfaces declarations).length,
        (others declarations).map Declaration.qualifiedName,
        deferred resolver declarations ((others declarations).map Declaration.qualifiedName)⟩,
        reports resolver options declarations) := by
  have haccount := account_append hall [] (.start ⟨0⟩) []
  rw [List.append_nil, List.append_nil] at haccount
  rw [verdict, haccount]
  simp only [account, Progress.after, Progress.start, conclude, Except.map, Nat.zero_add,
    List.nil_append]

theorem verdict_of_fatal {before : List Declaration} {e : GenerationError} (location : Location)
    (hbefore : ∀ declaration ∈ before, declaration.fatal? resolver options = none)
    (hfatal : (declaration.function resolver options).1 = .error e) :
    verdict resolver options (before ++ declaration :: rest) location
        ((visited resolver options before).map fun text => (text, .ok ())) (.ok ()) =
      (.error e, reports resolver options (before ++ [declaration])) := by
  have haccount := account_append hbefore (declaration :: rest) (.start ⟨0⟩) []
  rw [List.append_nil, account_of_fatal hfatal] at haccount
  rw [verdict, haccount]
  simp [conclude, Progress.after, Progress.report, Progress.start, reports]

theorem verdict_ne_notAnnotated {declarations : List Declaration} (location : Location)
    (hannotated : ∀ declaration ∈ declarations, declaration.isAnnotated functionAnnotation)
    (name : String) :
    (verdict resolver options declarations location ((texts resolver options declarations).map
      fun text => (text, .ok ())) (.ok ())).1 ≠ .error (.notAnnotated name) := by
  intro h
  have hfailure := failure?_verdict location (.ok ())
    (Answers.of_texts (texts resolver options declarations))
  rw [h, refusal?_eq_none_iff.2 (by simp), Option.map_none, Option.none_or] at hfailure
  have hfatal : firstFatal? resolver options declarations = some (.notAnnotated name) :=
    (hfailure.trans Option.or_none).symm
  obtain ⟨declaration, hmem, hvisit⟩ := List.exists_of_findSome?_eq_some hfatal
  exact Declaration.fatal?_ne_notAnnotated resolver options (hannotated declaration hmem) name
    hvisit

theorem run_recorded_of_neverFails {σ : Type} {sink : Sink (StateM σ)} (hsink : sink.NeverFails)
    {unit : CompilationUnit} (options : Options) (location : Location) (start : σ)
    (hannotated : unit.annotatedWith functionAnnotation ≠ []) :
    let sent : List Sent := (texts unit.resolver options
      (unit.annotatedWith functionAnnotation)).map fun text => (text, .ok ())
    ∃ final, sink.Served ((sink.openFile location).run start).2 sent (.ok ()) final ∧
      ((run sink.recorded unit options location).run []).run start =
        ((verdict unit.resolver options (unit.annotatedWith functionAnnotation) location sent
          (.ok ()), .opened location.relativePath ::
            sent.map (fun entry => .written entry.1) ++ [.closed]), final) := by
  obtain ⟨sent, written, hsend, hanswered, hanswers⟩ := sink.run_writeEach
    (texts unit.resolver options (unit.annotatedWith functionAnnotation))
    ((sink.openFile location).run start).2
  have hopen : (sink.openFile location).run start =
      (.ok (), ((sink.openFile location).run start).2) :=
    Prod.ext (hsink.openFile location start) rfl
  have hclose : sink.close.run written = (.ok (), (sink.close.run written).2) :=
    Prod.ext (hsink.close written) rfl
  rw [← hanswers.eq_of_accepted (hsink.accepted hanswered)]
  exact ⟨_, ⟨written, hanswered, hclose⟩, run_recorded_of_opened hannotated hopen hsend hclose⟩

/-- If a pass succeeds, nothing was annotated, or all visits and all requests succeeded. -/
theorem recorded_of_ok {σ : Type} {sink : Sink (StateM σ)} {unit : CompilationUnit}
    {options : Options} {location : Location} {start : σ} {outcome : Outcome}
    {log : DiagnosticLog} {events : List SinkEvent} {final : σ}
    (h : ((run sink.recorded unit options location).run []).run start =
      (((.ok outcome, log), events), final)) :
    let annotated := unit.annotatedWith functionAnnotation
    let skipped := (others annotated).map Declaration.qualifiedName
    (annotated = [] ∧ outcome = .nothing ∧ events = []) ∨
    (annotated ≠ [] ∧
      (∀ declaration ∈ annotated, declaration.fatal? unit.resolver options = none) ∧
      outcome = ⟨some location.relativePath, (interfaces annotated).length, skipped,
        deferred unit.resolver annotated skipped⟩ ∧
      events = .opened location.relativePath ::
        (visited unit.resolver options annotated).map .written ++ [.closed]) := by
  by_cases hannotated : unit.annotatedWith functionAnnotation = []
  · rw [run_of_not_annotated _ options location hannotated] at h
    cases h
    exact .inl ⟨hannotated, rfl, rfl⟩
  · rcases hopen : (sink.openFile location).run start with ⟨answer, opened⟩
    cases answer with
    | error e =>
      rw [run_recorded_eq sink options location hannotated, run_bind_of_run_eq hopen] at h
      cases h
    | ok =>
      obtain ⟨sent, written, hsend, -, hanswers⟩ := sink.run_writeEach
        (texts unit.resolver options (unit.annotatedWith functionAnnotation)) opened
      rcases hclose : sink.close.run written with ⟨closing, closed⟩
      rw [run_recorded_of_opened hannotated hopen hsend hclose] at h
      have hresult := congrArg (·.1.1.1) h
      obtain ⟨hall, haccepted, rfl⟩ :=
        (exists_ok_verdict_iff location closing hanswers).1 ⟨_, hresult⟩
      rw [hanswers.eq_of_accepted haccepted, texts_of_all hall, verdict_of_all location hall,
        List.map_map] at h
      cases h
      exact .inr ⟨hannotated, hall, rfl, rfl⟩

/-- A pass into memory comes to the same whatever is stored there. -/
theorem run_memory_of_annotated {unit : CompilationUnit} (options : Options) (location : Location)
    (memory : MemoryFiles) (hannotated : unit.annotatedWith functionAnnotation ≠ []) :
    let sent := texts unit.resolver options (unit.annotatedWith functionAnnotation)
    (run MemoryFiles.sink unit options location).run memory =
      (verdict unit.resolver options (unit.annotatedWith functionAnnotation) location
        (sent.map fun text => (text, .ok ())) (.ok ()),
        memory.commit location.relativePath (String.join sent)) := by
  obtain ⟨final, hserved, hrun⟩ :=
    run_recorded_of_neverFails MemoryFiles.sink_neverFails options location memory hannotated
  have hfinal := MemoryFiles.eq_commit_of_served hserved
  rw [List.map_map, Function.comp_def, List.map_id'] at hfinal
  rw [← fst_run_observed MemoryFiles.sink.observes_recorded, StateT.run_map, hrun, hfinal]
  rfl

/-- A pass into memory succeeds if and only if all its visits do. -/
theorem exists_ok_run_memory_iff (options : Options) (location : Location) (memory : MemoryFiles)
    (unit : CompilationUnit) :
    (∃ outcome, ((run MemoryFiles.sink unit options location).run memory).1.1 = .ok outcome) ↔
      ∀ declaration ∈ unit.annotatedWith functionAnnotation,
        declaration.fatal? unit.resolver options = none := by
  by_cases h : unit.annotatedWith functionAnnotation = []
  · rw [run_of_not_annotated _ options location h, h]
    exact ⟨fun _ _ hmem => absurd hmem List.not_mem_nil, fun _ => ⟨_, rfl⟩⟩
  · rw [run_memory_of_annotated options location memory h,
      exists_ok_verdict_iff location (.ok ()) (.of_texts _)]
    refine and_iff_left ⟨fun entry hentry => ?_, rfl⟩
    obtain ⟨text, -, rfl⟩ := List.mem_map.1 hentry
    rfl

theorem run_memory_of_all {unit : CompilationUnit} (options : Options) (location : Location)
    (memory : MemoryFiles) (h : unit.annotatedWith functionAnnotation ≠ [])
    (hall : ∀ declaration ∈ unit.annotatedWith functionAnnotation,
      declaration.fatal? unit.resolver options = none) :
    let annotated := unit.annotatedWith functionAnnotation
    let skipped := (others annotated).map Declaration.qualifiedName
    (run MemoryFiles.sink unit options location).run memory =
      ((.ok ⟨some location.relativePath, (interfaces annotated).length, skipped,
          deferred unit.resolver annotated skipped⟩, reports unit.resolver options annotated),
        memory.commit location.relativePath
          (String.join (visited unit.resolver options annotated))) := by
  rw [run_memory_of_annotated options location memory h]
  simp only [texts_of_all hall, verdict_of_all location hall]

end Pass

namespace Generator

theorem pass_eq {m : Type → Type} [Monad m] [LawfulMonad m] (sink : Sink m)
    (generator : Generator) (unit : CompilationUnit) :
    generator.pass sink unit =
      (fun passed => (passed.1, { generator with log := generator.log ++ passed.2 })) <$>
        Pass.run sink unit generator.options generator.output :=
  (map_eq_pure_bind _ _).symm

variable {σ : Type} {sink : Sink (StateM σ)} {unit : CompilationUnit} (generator : Generator)

theorem run_pass_of_neverFails (hsink : sink.NeverFails) (start : σ)
    (hannotated : unit.annotatedWith functionAnnotation ≠ []) {texts : List String}
    (htexts : Pass.texts unit.resolver generator.options
      (unit.annotatedWith functionAnnotation) = texts) :
    let verdict := Pass.verdict unit.resolver generator.options
      (unit.annotatedWith functionAnnotation) generator.output
      (texts.map fun text => (text, .ok ())) (.ok ())
    (((generator.pass sink.recorded unit).run []).run start).1 =
      ((verdict.1, { generator with log := generator.log ++ verdict.2 }),
        .opened generator.output.relativePath :: texts.map .written ++ [.closed]) := by
  obtain ⟨final, -, hrun⟩ := Pass.run_recorded_of_neverFails hsink generator.options
    generator.output start hannotated
  rw [htexts, List.map_map] at hrun
  rw [pass_eq, StateT.run_map, StateT.run_map, hrun]
  rfl

theorem stored_of_pass (memory : MemoryFiles)
    (hannotated : unit.annotatedWith functionAnnotation ≠ []) {texts : List String}
    (htexts : Pass.texts unit.resolver generator.options
      (unit.annotatedWith functionAnnotation) = texts) :
    memory.Stored ((generator.pass MemoryFiles.sink unit).run memory).2
      generator.output.relativePath (String.join texts) := by
  rw [pass_eq, StateT.run_map, Pass.run_memory_of_annotated _ _ _ hannotated, htexts]
  exact memory.stored_commit _ _

/-- Against a sink that never fails, a pass is the fold of its visits over the annotated
declarations. -/
theorem pass_is_fold {σ : Type} {sink : Sink (StateM σ)} (hsink : sink.NeverFails)
    (generator : Generator) (unit : CompilationUnit) (start : σ) (memory : MemoryFiles) :
    let annotated := unit.annotatedWith functionAnnotation
    let visit := Declaration.function unit.resolver generator.options
    let path := generator.output.relativePath
    let pass := (((generator.pass sink.recorded unit).run []).run start).1
    let files := ((generator.pass MemoryFiles.sink unit).run memory).2
    (annotated = [] → pass = ((.ok .nothing, generator), []) ∧ files = memory) ∧
    (annotated ≠ [] → (∀ declaration ∈ annotated, ∃ text?, (visit declaration).1 = .ok text?) →
      ∃ texts outcome,
        (Pass.interfaces annotated).map (fun declaration => (visit declaration).1) =
          texts.map (fun text => .ok (some text)) ∧
        outcome.file = some path ∧
        outcome.functions = (Pass.interfaces annotated).length ∧
        outcome.skipped = (Pass.others annotated).map Declaration.qualifiedName ∧
        outcome.functions + outcome.skipped.length = annotated.length ∧
        pass = ((.ok outcome, { generator with
          log := generator.log ++ annotated.flatMap fun declaration => (visit declaration).2 }),
          .opened path :: texts.map .written ++ [.closed]) ∧
        memory.Stored files path (String.join texts)) ∧
    (∀ before declaration after e, annotated = before ++ declaration :: after →
      (∀ earlier ∈ before, ∃ text?, (visit earlier).1 = .ok text?) →
      (visit declaration).1 = .error e →
      ∃ texts,
        (Pass.interfaces before).map (fun declaration => (visit declaration).1) =
          texts.map (fun text => .ok (some text)) ∧
        pass = ((.error e, { generator with
          log := generator.log ++
            (before ++ [declaration]).flatMap fun declaration => (visit declaration).2 }),
          .opened path :: texts.map .written ++ [.closed]) ∧
        memory.Stored files path (String.join texts)) ∧
    ∀ name, pass.1.1 ≠ .error (.notAnnotated name) := by
  intro annotated visit path pass files
  have hnothing (hnone : annotated = []) : pass = ((.ok .nothing, generator), []) ∧
      files = memory := by
    simp only [pass, files, pass_eq, Pass.run_of_not_annotated _ _ _ hnone, map_pure,
      List.append_nil]
    exact ⟨rfl, rfl⟩
  refine ⟨hnothing, fun hsome hall => ?_,
    fun before declaration after e hsplit hbefore hfatal => ?_, fun name hname => ?_⟩
  · replace hall : ∀ declaration ∈ annotated,
        declaration.fatal? unit.resolver generator.options = none :=
      fun declaration hmem => failure?_eq_none_iff.2 (hall declaration hmem)
    have htexts := Pass.texts_of_all hall
    have hpass := generator.run_pass_of_neverFails hsink start hsome htexts
    rw [Pass.verdict_of_all _ hall] at hpass
    refine ⟨_, _, Pass.map_interfaces hall, ?_, ?_, ?_, ?_, hpass,
      generator.stored_of_pass memory hsome htexts⟩
    · rfl
    · rfl
    · rfl
    · rw [List.length_map]
      exact Pass.length_interfaces_add_others annotated
  · have hbefore : ∀ declaration ∈ before,
        declaration.fatal? unit.resolver generator.options = none :=
      fun declaration hmem => failure?_eq_none_iff.2 (hbefore declaration hmem)
    have hsome : annotated ≠ [] := by
      rw [hsplit]
      exact List.append_ne_nil_of_right_ne_nil before (List.cons_ne_nil _ _)
    have htexts : Pass.texts unit.resolver generator.options annotated =
        Pass.visited unit.resolver generator.options before := by
      rw [hsplit, Pass.texts_append hbefore, Pass.texts_cons_of_error hfatal, List.append_nil]
    have hpass := generator.run_pass_of_neverFails hsink start hsome htexts
    rw [show unit.annotatedWith functionAnnotation = _ from hsplit,
      Pass.verdict_of_fatal _ hbefore hfatal] at hpass
    exact ⟨_, Pass.map_interfaces hbefore, hpass, generator.stored_of_pass memory hsome htexts⟩
  · by_cases hnone : annotated = []
    · rw [(hnothing hnone).1] at hname
      cases hname
    · rw [show pass = _ from generator.run_pass_of_neverFails hsink start hnone rfl] at hname
      exact Pass.verdict_ne_notAnnotated generator.output
        (fun _ hmem => (List.mem_filter.1 hmem).2) name hname

/-- An interface and an object that ask for functions: one function, one declaration skipped. -/
theorem pass_is_fold_of_interface_and_object :
    let mark := Annotation.mk functionAnnotation [(nameArgument, "first")]
    let unit : CompilationUnit :=
      ⟨[⟨"First", "", .interface, [mark], []⟩, ⟨"Second", "", .object, [mark], []⟩], .empty ""⟩
    MemoryFiles.sink.NeverFails ∧
      ∃ outcome, ((((Generator.new .default).pass MemoryFiles.sink.recorded unit).run []).run
          .empty).1.1.1 = .ok outcome ∧
        outcome.functions = 1 ∧ outcome.skipped = ["Second"] := by
  intro mark unit
  obtain ⟨-, hall, -⟩ := pass_is_fold MemoryFiles.sink_neverFails (.new .default) unit .empty .empty
  have hannotated : unit.annotatedWith functionAnnotation = unit.declarations :=
    List.filter_eq_self.2 (List.forall_mem_cons.2 ⟨rfl, List.forall_mem_singleton.2 rfl⟩)
  have hvisits : ∀ declaration ∈ unit.declarations,
      ∃ text?, (declaration.function unit.resolver .default).1 = .ok text? :=
    List.forall_mem_cons.2 ⟨⟨some (Declaration.plainFunction "first"), rfl⟩,
      List.forall_mem_singleton.2 ⟨none, rfl⟩⟩
  rw [hannotated] at hall
  obtain ⟨texts, outcome, -, -, hfunctions, hskipped, -, hpass, -⟩ :=
    hall (List.cons_ne_nil _ _) hvisits
  exact ⟨MemoryFiles.sink_neverFails, outcome, congrArg (·.1.1) hpass, hfunctions, hskipped⟩

end Generator

end FunctionForge
