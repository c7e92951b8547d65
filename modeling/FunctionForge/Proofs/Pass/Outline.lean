import FunctionForge.Proofs.Function.Visit
import FunctionForge.Proofs.List
import FunctionForge.Proofs.Pass.Fold

/-!
# What a pass sees of generic arguments

With generic arguments ignored, a type is seen in outline: its name, whether it is nullable, and how
many arguments it has. A visit reads no more of a property than that, so a pass over a unit does
what it does over the outline of the unit. Only the list of deferred declarations is made from the
types as they are written.
-/

namespace FunctionForge

/-! ### Outlines -/

/-- The type with a star in the place of each argument. -/
def TypeRef.outline (type : TypeRef) : TypeRef :=
  .mk type.name type.nullable (type.arguments.map fun _ => .star)

def Property.outline (property : Property) : Property :=
  { property with type := property.type.outline }

def Declaration.outline (declaration : Declaration) : Declaration :=
  { declaration with properties := declaration.properties.map Property.outline }

/-- The unit with a star in the place of each argument of a property type. -/
def CompilationUnit.outline (unit : CompilationUnit) : CompilationUnit :=
  { unit with declarations := unit.declarations.map Declaration.outline }

theorem TypeRef.outline_eq_iff {type other : TypeRef} :
    type.outline = other.outline ↔ type.name = other.name ∧ type.nullable = other.nullable ∧
      type.arguments.length = other.arguments.length := by
  rw [outline, outline, TypeRef.mk.injEq, List.map_const', List.map_const',
    List.replicate_left_inj]

/-- Properties that are equal but for the arguments of their types. These agree in number only. -/
structure Property.SameInOutline (first second : Property) : Prop where
  name : first.name = second.name
  typeName : first.type.name = second.type.name
  nullable : first.type.nullable = second.type.nullable
  arguments : first.type.arguments.length = second.type.arguments.length
  annotations : first.annotations = second.annotations

structure Declaration.SameInOutline (first second : Declaration) : Prop where
  name : first.name = second.name
  package : first.package = second.package
  kind : first.kind = second.kind
  annotations : first.annotations = second.annotations
  properties : List.Forall₂ Property.SameInOutline first.properties second.properties

/-- Units with one table whose declarations are equal but for the arguments of property types. -/
structure CompilationUnit.SameInOutline (first second : CompilationUnit) : Prop where
  table : first.table = second.table
  declarations : List.Forall₂ Declaration.SameInOutline first.declarations second.declarations

theorem Property.SameInOutline.outline_eq {first second : Property}
    (h : first.SameInOutline second) : first.outline = second.outline := by
  rw [outline, outline, TypeRef.outline_eq_iff.2 ⟨h.typeName, h.nullable, h.arguments⟩, h.name,
    h.annotations]

theorem Declaration.SameInOutline.outline_eq {first second : Declaration}
    (h : first.SameInOutline second) : first.outline = second.outline := by
  have hproperties :
      first.properties.map Property.outline = second.properties.map Property.outline :=
    map_eq_map_of_forall₂ (f := Property.outline)
      (fun _ _ => Property.SameInOutline.outline_eq) h.properties
  rw [outline, outline, hproperties, h.name, h.package, h.kind, h.annotations]

theorem CompilationUnit.SameInOutline.outline_eq {first second : CompilationUnit}
    (h : first.SameInOutline second) : first.outline = second.outline := by
  have hdeclarations :
      first.declarations.map Declaration.outline = second.declarations.map Declaration.outline :=
    map_eq_map_of_forall₂ (f := Declaration.outline)
      (fun _ _ => Declaration.SameInOutline.outline_eq) h.declarations
  rw [outline, outline, hdeclarations, h.table]

/-! ### Visits -/

section Visit

variable {resolver : Resolver} {options : Options} (hignore : options.ignoreGenericArgs = true)

include hignore

namespace Property

theorem renderedType_outline (owner : String) (property : Property) :
    property.outline.renderedType resolver options owner =
      property.renderedType resolver options owner := by
  obtain ⟨name, ⟨typeName, nullable, arguments⟩, annotations⟩ := property
  have hclause (symbol : String) :
      Rendering.arguments resolver true symbol (arguments.map fun _ => .star) =
        Rendering.arguments resolver true symbol arguments := by
    rw [Rendering.arguments_eq, Rendering.arguments_eq, Rendering.clause_suppressed,
      Rendering.clause_suppressed, Rendering.clauseReports_suppressed,
      Rendering.clauseReports_suppressed, List.map_map]
    rfl
  simp only [outline, TypeRef.outline, renderedType, Rendering.type, hignore, hclause, symbol,
    TypeRef.name_mk, TypeRef.nullable_mk, TypeRef.arguments_mk]

theorem said_outline (owner : String) (property : Property) :
    property.outline.said resolver options owner = property.said resolver options owner := by
  rw [said, said, renderedType_outline hignore]
  rfl

end Property

namespace Declaration

omit hignore in
theorem find?_outline (declaration : Declaration) (name : String) :
    (declaration.outline.properties.find? fun property => property.isAnnotated name) =
      (declaration.properties.find? fun property => property.isAnnotated name).map
        Property.outline :=
  List.find?_map

omit hignore in
theorem markers_outline (declaration : Declaration) :
    declaration.outline.markers = declaration.markers := by
  rw [markers, markers, outline, List.flatMap_map]
  rfl

theorem summaryNamed_outline (declaration : Declaration) (name : String) :
    declaration.outline.summaryNamed resolver options name =
      declaration.summaryNamed resolver options name := by
  have hsaid (property : Property) :
      property.outline.said resolver options declaration.qualifiedName =
        property.said resolver options declaration.qualifiedName :=
    Property.said_outline hignore declaration.qualifiedName property
  have hparameters : declaration.outline.properties.map
      (Property.said resolver options declaration.qualifiedName) =
        declaration.properties.map (Property.said resolver options declaration.qualifiedName) := by
    rw [outline, List.map_map]
    exact List.map_congr_left fun property _ => hsaid property
  have hreturned : declaration.outline.returned? resolver options =
      declaration.returned? resolver options := by
    rw [returned?, returned?, find?_outline, Option.bind_map]
    exact congrArg _ (funext fun property => by
      rw [Function.comp_apply]
      exact congrArg (fun said => said.2.map fun type => (property.name, type)) (hsaid property))
  rw [summaryNamed, summaryNamed, hreturned]
  exact congrArg (FunctionSummary.mk name · _) hparameters

theorem propertyReports_outline (declaration : Declaration) :
    declaration.outline.propertyReports resolver options =
      declaration.propertyReports resolver options := by
  rw [propertyReports, propertyReports, outline, List.flatMap_map]
  exact List.flatMap_congr fun property _ =>
    congrArg Prod.snd (Property.renderedType_outline hignore declaration.qualifiedName property)

theorem returnReports_outline (declaration : Declaration) :
    declaration.outline.returnReports resolver options =
      declaration.returnReports resolver options := by
  rw [returnReports, returnReports, find?_outline]
  cases declaration.properties.find? fun property => property.isAnnotated returnsAnnotation with
  | none => rfl
  | some property =>
    have hsaid : property.outline.said resolver options declaration.qualifiedName =
        property.said resolver options declaration.qualifiedName :=
      Property.said_outline hignore declaration.qualifiedName property
    exact congrArg (fun said : String × Option String =>
      if said.2.isSome then [] else [declaration.unresolvedReturn property]) hsaid

/-- Visiting a declaration reads its properties in outline. -/
theorem function_outline (declaration : Declaration) :
    declaration.outline.function resolver options = declaration.function resolver options := by
  by_cases hkind : declaration.kind = .interface
  · have hkind' : declaration.outline.kind = .interface := hkind
    cases hname : declaration.functionName with
    | error e =>
      have hname' : declaration.outline.functionName = .error e := hname
      rw [function_of_unnamed hkind hname, function_of_unnamed hkind' hname']
    | ok name =>
      have hname' : declaration.outline.functionName = .ok name := hname
      rw [function_of_named hkind hname, function_of_named hkind' hname', markers_outline,
        summaryNamed_outline hignore, propertyReports_outline hignore,
        returnReports_outline hignore]
      rfl
  · rw [function, function, if_pos hkind]
    exact if_pos hkind

end Declaration

end Visit

/-! ### Passes -/

/-- What a pass has written and skipped, without what it has deferred. -/
def Outcome.done (outcome : Outcome) : Option Path × Nat × List String :=
  (outcome.file, outcome.functions, outcome.skipped)

theorem CompilationUnit.annotatedWith_outline (unit : CompilationUnit) (name : String) :
    unit.outline.annotatedWith name = (unit.annotatedWith name).map Declaration.outline :=
  List.filter_map

namespace Pass

variable {resolver : Resolver} {options : Options}

/-- The result of a pass without what it has deferred, and what it reports. -/
def seen (pass : Except GenerationError Outcome × DiagnosticLog) :
    Except GenerationError (Option Path × Nat × List String) × DiagnosticLog :=
  (pass.1.map Outcome.done, pass.2)

theorem account_outline (hignore : options.ignoreGenericArgs = true)
    (declarations : List Declaration) (progress : Progress) (sent : List Sent) :
    account resolver options (declarations.map Declaration.outline) progress sent =
      account resolver options declarations progress sent := by
  induction declarations generalizing progress sent with
  | nil => rfl
  | cons declaration rest ih =>
    simp only [List.map_cons, account, Declaration.function_outline hignore, ih]
    rfl

theorem texts_outline (hignore : options.ignoreGenericArgs = true)
    (declarations : List Declaration) :
    texts resolver options (declarations.map Declaration.outline) =
      texts resolver options declarations := by
  induction declarations with
  | nil => rfl
  | cons declaration rest ih =>
    have hfunction : declaration.outline.function resolver options =
        declaration.function resolver options := Declaration.function_outline hignore declaration
    cases hresult : (declaration.function resolver options).1 with
    | error e =>
      rw [List.map_cons, texts_cons_of_error hresult,
        texts_cons_of_error ((congrArg Prod.fst hfunction).trans hresult)]
    | ok text? =>
      rw [List.map_cons, texts_cons_of_ok hresult,
        texts_cons_of_ok ((congrArg Prod.fst hfunction).trans hresult), ih]

theorem seen_verdict_outline (hignore : options.ignoreGenericArgs = true)
    (declarations : List Declaration) (location : Location) (sent : List Sent)
    (closing : Except WriteError Unit) :
    seen (verdict resolver options (declarations.map Declaration.outline) location sent closing) =
      seen (verdict resolver options declarations location sent closing) := by
  rw [verdict, verdict, account_outline hignore]
  rcases account resolver options declarations (.start ⟨0⟩) sent with ⟨written, progress⟩
  cases written with
  | error e => rfl
  | ok => cases closing <;> rfl

/-- A pass over a unit asks of its sink what a pass over the outline asks, and comes to the same
but for what is deferred. This is an equation between actions. -/
theorem run_outline {m : Type → Type} [Monad m] [LawfulMonad m]
    (hignore : options.ignoreGenericArgs = true) (sink : Sink m) (unit : CompilationUnit)
    (location : Location) :
    seen <$> run sink unit.outline options location = seen <$> run sink unit options location := by
  have hannotated := unit.annotatedWith_outline functionAnnotation
  by_cases h : unit.annotatedWith functionAnnotation = []
  · rw [h] at hannotated
    rw [run_of_not_annotated _ options location h,
      run_of_not_annotated _ options location hannotated]
  · have h' : unit.outline.annotatedWith functionAnnotation ≠ [] := by
      rwa [hannotated, ne_eq, List.map_eq_nil_iff]
    have htexts : texts unit.resolver options
        ((unit.annotatedWith functionAnnotation).map Declaration.outline) =
          texts unit.resolver options (unit.annotatedWith functionAnnotation) :=
      texts_outline hignore _
    rw [run_eq sink options location h, run_eq sink options location h', hannotated, map_bind,
      map_bind]
    refine bind_congr fun answer => ?_
    cases answer with
    | error e => rfl
    | ok =>
      simp only [map_bind, map_pure]
      rw [show unit.outline.resolver = unit.resolver from rfl, htexts]
      refine bind_congr fun sent => bind_congr fun closing => congrArg pure ?_
      exact seen_verdict_outline hignore _ location sent closing

theorem seen_run_of_sameInOutline {m : Type → Type} [Monad m] [LawfulMonad m]
    {first second : CompilationUnit} (h : first.SameInOutline second)
    (hignore : options.ignoreGenericArgs = true) (sink : Sink m) (location : Location) :
    seen <$> run sink first options location = seen <$> run sink second options location := by
  rw [← run_outline hignore sink first, h.outline_eq, run_outline hignore]

/-- Passes that are seen alike fail alike, or their outcomes agree on all but what is deferred. -/
theorem result_of_seen {pass other : Except GenerationError Outcome × DiagnosticLog}
    (h : seen pass = seen other) :
    pass.2 = other.2 ∧ (∀ e, pass.1 = .error e ↔ other.1 = .error e) ∧
    ∀ outcome, pass.1 = .ok outcome → ∃ outcome', other.1 = .ok outcome' ∧
      outcome.file = outcome'.file ∧ outcome.functions = outcome'.functions ∧
      outcome.skipped = outcome'.skipped := by
  obtain ⟨result, log⟩ := pass
  obtain ⟨result', log'⟩ := other
  obtain ⟨hresult, hlog⟩ := Prod.mk.inj h
  refine ⟨hlog, ?_⟩
  cases result with
  | error e =>
    cases result' with
    | error e' =>
      cases hresult
      exact ⟨fun _ => Iff.rfl, nofun⟩
    | ok outcome' => cases hresult
  | ok outcome =>
    cases result' with
    | error e' => cases hresult
    | ok outcome' =>
      have hdone : outcome.done = outcome'.done := Except.ok.inj hresult
      simp only [Outcome.done, Prod.mk.injEq] at hdone
      refine ⟨fun e => iff_of_false nofun nofun, fun found hfound => ⟨outcome', rfl, ?_⟩⟩
      cases hfound
      exact hdone

/-- With generic arguments ignored, nothing inside them has a part in a pass. Units that are equal
in outline make the same requests of every sink and leave it in the same state, with the same
reports and the same error if there is one, and their outcomes differ in what is deferred at most.
-/
theorem ignored_arguments_have_no_effect {first second : CompilationUnit}
    (h : first.SameInOutline second) (hignore : options.ignoreGenericArgs = true) {σ : Type}
    (sink : Sink (StateM σ)) (location : Location) (start : σ) :
    let pass := ((run sink.recorded first options location).run []).run start
    let pass' := ((run sink.recorded second options location).run []).run start
    (∀ memory, ((run MemoryFiles.sink first options location).run memory).2 =
      ((run MemoryFiles.sink second options location).run memory).2) ∧
    pass.2 = pass'.2 ∧ pass.1.2 = pass'.1.2 ∧
    pass.1.1.2 = pass'.1.1.2 ∧
    (∀ e, pass.1.1.1 = .error e ↔ pass'.1.1.1 = .error e) ∧
    ∀ outcome, pass.1.1.1 = .ok outcome → ∃ outcome', pass'.1.1.1 = .ok outcome' ∧
      outcome.file = outcome'.file ∧ outcome.functions = outcome'.functions ∧
      outcome.skipped = outcome'.skipped := by
  intro pass pass'
  have hmemory (memory : MemoryFiles) := congrArg (fun action => (action.run memory).2)
    (seen_run_of_sameInOutline h hignore MemoryFiles.sink location)
  have hpass : ((seen pass.1.1, pass.1.2), pass.2) = ((seen pass'.1.1, pass'.1.2), pass'.2) :=
    congrArg (fun action => (action.run []).run start)
      (seen_run_of_sameInOutline h hignore sink.recorded location)
  obtain ⟨hanswer, hstate⟩ := Prod.mk.inj hpass
  obtain ⟨hseen, hevents⟩ := Prod.mk.inj hanswer
  exact ⟨hmemory, hstate, hevents, result_of_seen hseen⟩

/-- A list of a type that does not resolve has the function of a list of anything, though only the
declaration of the former is deferred. -/
theorem ignored_arguments_have_no_effect_in_list :
    let mark := Annotation.mk functionAnnotation [(nameArgument, "make")]
    let unit (argument : TypeArg) : CompilationUnit :=
      ⟨[⟨"Shelf", "", .interface, [mark], [⟨"items", .mk "List" true [argument], []⟩]⟩],
        .standard ""⟩
    let first := unit (.projected .covariant (.mk "Widget" true [.star]))
    let second := unit .star
    let pass (unit : CompilationUnit) :=
      ((run MemoryFiles.sink.recorded unit ⟨true⟩ .default).run []).run .empty
    first.SameInOutline second ∧ (pass first).2 = (pass second).2 ∧
    ∃ outcome outcome', (pass first).1.1.1 = .ok outcome ∧ (pass second).1.1.1 = .ok outcome' ∧
      outcome.functions = outcome'.functions ∧
      outcome.deferred = ["Shelf"] ∧ outcome'.deferred = [] := by
  intro mark unit first second pass
  have hitems : Property.SameInOutline
      ⟨"items", .mk "List" true [.projected .covariant (.mk "Widget" true [.star])], []⟩
      ⟨"items", .mk "List" true [.star], []⟩ := ⟨rfl, rfl, rfl, rfl, rfl⟩
  have hsame : first.SameInOutline second :=
    ⟨rfl, .cons ⟨rfl, rfl, rfl, rfl, .cons hitems .nil⟩ .nil⟩
  obtain ⟨-, hmemory, -, -, -, houtcomes⟩ :=
    ignored_arguments_have_no_effect hsame rfl MemoryFiles.sink .default .empty
  obtain ⟨outcome, houtcome⟩ : ∃ outcome, (pass first).1.1.1 = .ok outcome :=
    failure?_eq_none_iff.1 (by decide +kernel)
  obtain ⟨outcome', houtcome', -, hfunctions, -⟩ := houtcomes outcome houtcome
  refine ⟨hsame, hmemory, outcome, outcome', houtcome, houtcome', hfunctions, ?_, ?_⟩
  · have hdeferred : (pass first).1.1.1.toOption.map Outcome.deferred = some ["Shelf"] := by
      decide +kernel
    rw [houtcome] at hdeferred
    exact Option.some.inj hdeferred
  · have hdeferred : (pass second).1.1.1.toOption.map Outcome.deferred = some [] := by
      decide +kernel
    rw [houtcome'] at hdeferred
    exact Option.some.inj hdeferred

end Pass

end FunctionForge
