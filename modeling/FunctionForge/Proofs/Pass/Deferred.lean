import FunctionForge.Proofs.Pass.Fold

/-!
# Deferred declarations

After a pass the annotated declarations are searched for names that do not resolve, with a stack of
types that are still to be looked at. The order of the search does not matter: it finds a name if
there is one at any depth. What is deferred is then told from what was skipped by qualified names.
Declarations may share one, and an interface that does so with a skipped declaration is not
deferred, though its function was written.
-/

namespace FunctionForge

namespace Declaration

/-- Whether the type of a property mentions a name that does not resolve, at any depth. -/
def MentionsUnresolved (resolver : Resolver) (declaration : Declaration) : Prop :=
  ∃ property ∈ declaration.properties, ∃ name ∈ property.type.names, resolver name = none

instance (resolver : Resolver) : DecidablePred (MentionsUnresolved resolver) :=
  fun _ => inferInstanceAs (Decidable (∃ property ∈ _, ∃ name ∈ _, _ = none))

theorem not_mentionsUnresolved_iff {resolver : Resolver} {declaration : Declaration} :
    ¬declaration.MentionsUnresolved resolver ↔ ∀ property ∈ declaration.properties,
      ∀ name ∈ property.type.names, (resolver name).isSome := by
  simp only [MentionsUnresolved, not_exists, not_and, Option.isSome_iff_ne_none, ne_eq]

end Declaration

namespace Pass

variable {resolver : Resolver}

/-- The induction is on the search. What comes onto the stack are the types in the arguments of the
one that was taken from it, and their names are the rest of its names. -/
theorem allResolve_iff (pending : List TypeRef) :
    allResolve resolver pending = true ↔
      ∀ type ∈ pending, ∀ name ∈ type.names, (resolver name).isSome := by
  fun_induction allResolve resolver pending with
  | case1 => exact iff_of_true rfl (List.forall_mem_nil _)
  | case2 name nullable arguments rest hname ih =>
    have harguments : (∀ type ∈ (typesIn arguments).reverse, ∀ inner ∈ type.names,
        (resolver inner).isSome) ↔
          ∀ inner ∈ TypeArg.namesOf arguments, (resolver inner).isSome := by
      rw [← flatMap_names, List.forall_mem_flatMap]
      simp only [List.mem_reverse]
    rw [ih, List.forall_mem_append, List.forall_mem_cons, harguments, TypeRef.names,
      List.forall_mem_cons, and_iff_right hname]
  | case3 name nullable arguments rest hname =>
    refine iff_of_false Bool.false_ne_true fun h => hname ?_
    exact h _ List.mem_cons_self name List.mem_cons_self

theorem isResolvable_iff (declaration : Declaration) :
    isResolvable resolver declaration = true ↔ ¬declaration.MentionsUnresolved resolver := by
  rw [isResolvable, allResolve_iff, Declaration.not_mentionsUnresolved_iff]
  simp only [List.mem_reverse, List.forall_mem_map]

theorem isResolvable_eq_false_iff (declaration : Declaration) :
    isResolvable resolver declaration = false ↔ declaration.MentionsUnresolved resolver := by
  rw [← Bool.not_eq_true, isResolvable_iff, Decidable.not_not]

/-- The interfaces that mention names that do not resolve. -/
def mentioning (resolver : Resolver) (declarations : List Declaration) : List Declaration :=
  (interfaces declarations).filter (Declaration.MentionsUnresolved resolver)

/-- A declaration whose name is not among the skipped ones is an interface, so the kinds need not be
looked at. -/
theorem deferred_eq (declarations : List Declaration) :
    let skipped := (others declarations).map Declaration.qualifiedName
    deferred resolver declarations skipped =
      ((mentioning resolver declarations).filter fun declaration =>
        declaration.qualifiedName ∉ skipped).map Declaration.qualifiedName := by
  intro skipped
  rw [deferred, List.filter_map, mentioning, interfaces, List.filter_filter, List.filter_filter,
    List.filter_filter]
  refine congrArg (List.map _) (List.filter_congr fun declaration hmem => ?_)
  rw [Bool.eq_iff_iff]
  by_cases hskipped : declaration.qualifiedName ∈ skipped
  · simp [hskipped]
  · have hkind : declaration.kind = .interface := by
      refine Decidable.not_not.1 fun hother => hskipped (List.mem_map_of_mem ?_)
      exact List.mem_filter.2 ⟨hmem, decide_eq_true hother⟩
    simp [hskipped, hkind, isResolvable_eq_false_iff]

/-- What a pass that succeeds tells about its declarations, for every sink. -/
theorem outcome_of_ok {σ : Type} {sink : Sink (StateM σ)} {unit : CompilationUnit}
    {options : Options} {location : Location} {start : σ} {outcome : Outcome}
    (h : ((run sink unit options location).run start).1.1 = .ok outcome) :
    let annotated := unit.annotatedWith functionAnnotation
    outcome.functions = (interfaces annotated).length ∧
    outcome.skipped = (others annotated).map Declaration.qualifiedName ∧
    outcome.deferred = deferred unit.resolver annotated outcome.skipped := by
  intro annotated
  rcases hrun : ((run sink.recorded unit options location).run []).run start with
    ⟨⟨⟨result, log⟩, events⟩, final⟩
  rw [← fst_run_observed sink.observes_recorded, StateT.run_map, hrun] at h
  obtain rfl : result = .ok outcome := h
  obtain ⟨hannotated, rfl, -⟩ | ⟨-, -, rfl, -⟩ := recorded_of_ok hrun
  · rw [show annotated = [] from hannotated]
    exact ⟨rfl, rfl, rfl⟩
  · exact ⟨rfl, rfl, rfl⟩

/-- What a pass that succeeds has deferred, in the order of the declarations: the annotated
interfaces that mention names that do not resolve, without those whose qualified name was skipped.
These are all of them if and only if no skipped declaration has the name of one. -/
theorem deferred_of_ok {σ : Type} (sink : Sink (StateM σ)) (unit : CompilationUnit)
    (options : Options) (location : Location) (start : σ) {outcome : Outcome}
    (h : ((run sink unit options location).run start).1.1 = .ok outcome) :
    let annotated := unit.annotatedWith functionAnnotation
    let unresolved := mentioning unit.resolver annotated
    outcome.functions = (interfaces annotated).length ∧
    outcome.skipped = (others annotated).map Declaration.qualifiedName ∧
    outcome.deferred = (unresolved.filter fun declaration =>
      declaration.qualifiedName ∉ outcome.skipped).map Declaration.qualifiedName ∧
    (outcome.deferred = unresolved.map Declaration.qualifiedName ↔
      ∀ declaration ∈ unresolved, declaration.qualifiedName ∉ outcome.skipped) ∧
    ∀ name ∈ outcome.skipped, name ∉ outcome.deferred := by
  intro annotated unresolved
  obtain ⟨hfunctions, hskipped, hdeferred⟩ := outcome_of_ok h
  have hlist : outcome.deferred = (unresolved.filter fun declaration =>
      declaration.qualifiedName ∉ outcome.skipped).map Declaration.qualifiedName := by
    rw [hdeferred, hskipped]
    exact deferred_eq annotated
  refine ⟨hfunctions, hskipped, hlist, ⟨fun hall => ?_, fun hnone => ?_⟩, fun name hname => ?_⟩
  · -- A filter that keeps the length drops nothing.
    have hlength := congrArg List.length (hlist.symm.trans hall)
    rw [List.length_map, List.length_map, List.length_filter_eq_length_iff] at hlength
    exact fun declaration hmem => of_decide_eq_true (hlength declaration hmem)
  · rw [hlist, List.filter_eq_self.2]
    exact fun declaration hmem => decide_eq_true (hnone declaration hmem)
  · rw [hlist]
    rintro hmem
    obtain ⟨declaration, hkept, rfl⟩ := List.mem_map.1 hmem
    exact of_decide_eq_true (List.mem_filter.1 hkept).2 hname

/-- An object is skipped and is not deferred, though it mentions the same name as the interface that
is. -/
theorem deferred_of_interface_and_object :
    let mark := Annotation.mk functionAnnotation [(nameArgument, "make")]
    let widget := Property.mk "widget" (.mk "Widget" false []) []
    let unit : CompilationUnit := ⟨[⟨"Broken", "", .interface, [mark], [widget]⟩,
      ⟨"Skipped", "", .object, [mark], [widget]⟩], .empty ""⟩
    ∃ outcome, ((run MemoryFiles.sink unit .default .default).run .empty).1.1 = .ok outcome ∧
      outcome.skipped = ["Skipped"] ∧ outcome.deferred = ["Broken"] := by
  intro mark widget unit
  obtain ⟨outcome, houtcome⟩ : ∃ outcome,
      ((run MemoryFiles.sink unit .default .default).run .empty).1.1 = .ok outcome :=
    failure?_eq_none_iff.1 (by decide +kernel)
  obtain ⟨-, hskipped, hdeferred, -⟩ :=
    deferred_of_ok MemoryFiles.sink unit .default .default .empty houtcome
  refine ⟨outcome, houtcome, hskipped, ?_⟩
  rw [hdeferred, hskipped]
  decide +kernel

/-- A class that is skipped hides the interface of its name, whose function is written. -/
theorem namesake_hides_interface :
    let mark := Annotation.mk functionAnnotation [(nameArgument, "make")]
    let widget := Property.mk "widget" (.mk "Widget" false []) []
    let unit : CompilationUnit := ⟨[⟨"Same", "", .interface, [mark], [widget]⟩,
      ⟨"Same", "", .plainClass, [mark], []⟩], .empty ""⟩
    ∃ outcome, ((run MemoryFiles.sink unit .default .default).run .empty).1.1 = .ok outcome ∧
      outcome.functions = 1 ∧ outcome.deferred = [] ∧
      (mentioning unit.resolver (unit.annotatedWith functionAnnotation)).map
        Declaration.qualifiedName = ["Same"] := by
  intro mark widget unit
  obtain ⟨outcome, houtcome⟩ : ∃ outcome,
      ((run MemoryFiles.sink unit .default .default).run .empty).1.1 = .ok outcome :=
    failure?_eq_none_iff.1 (by decide +kernel)
  obtain ⟨hfunctions, hskipped, hdeferred⟩ := outcome_of_ok houtcome
  refine ⟨outcome, houtcome, hfunctions, ?_, by decide +kernel⟩
  rw [hdeferred, hskipped]
  decide +kernel

end Pass

end FunctionForge
