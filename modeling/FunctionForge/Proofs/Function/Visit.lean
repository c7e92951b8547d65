import FunctionForge.Proofs.Function.Summary
import FunctionForge.Proofs.Rendering.Clause

/-!
# What a visit comes to

Visiting a named interface tells three things about its properties: what is reported about them, how
often one is marked as returned, and what the function says. With more than one mark the visit
fails, and what was reported stays. Else the function has a parameter and a print statement for each
property, and it returns the marked one if the type of that resolves.
-/

namespace FunctionForge

namespace Property

variable {resolver : Resolver} {options : Options} {owner : String} {property : Property}

theorem renderedType_of_unresolved (h : resolver property.type.name = none) :
    property.renderedType resolver options owner =
      (none, [.error ("Invalid property type '" ++ property.type.name ++ "'")
        (property.symbol owner)]) := by
  obtain ⟨name, ⟨typeName, nullable, arguments⟩, annotations⟩ := property
  have hname : resolver typeName = none := h
  simp only [renderedType, Rendering.type, hname, TypeRef.name_mk]

theorem renderedType_of_resolved (options : Options) (owner : String) {qualified : String}
    (h : resolver property.type.name = some qualified) :
    ∃ type,
      Rendering.type resolver options.ignoreGenericArgs (property.symbol owner) property.type =
        .ok (type, Rendering.clauseReports resolver options.ignoreGenericArgs
          (property.symbol owner) property.type.arguments) ∧
      property.renderedType resolver options owner =
        (some type, Rendering.clauseReports resolver options.ignoreGenericArgs
          (property.symbol owner) property.type.arguments) := by
  obtain ⟨name, ⟨typeName, nullable, arguments⟩, annotations⟩ := property
  have hname : resolver typeName = some qualified := h
  simp [renderedType, Rendering.type, hname, Rendering.arguments_eq]

/-- The line of a property among the parameters. It has the rendered type of the property if the
name of the type resolves, and no type if not. -/
inductive WritesParameter (resolver : Resolver) (options : Options) (owner : String)
    (property : Property) : String → Prop
  | typed {qualified type : String} {reports : DiagnosticLog}
      (hresolves : resolver property.type.name = some qualified)
      (htype : Rendering.type resolver options.ignoreGenericArgs (property.symbol owner)
        property.type = .ok (type, reports)) :
      WritesParameter resolver options owner property
        (Text.indented (property.name ++ ": " ++ type ++ ","))
  | untyped (hunresolved : resolver property.type.name = none) :
      WritesParameter resolver options owner property (Text.indented (property.name ++ ","))

theorem writesParameter_said (resolver : Resolver) (options : Options) (owner : String)
    (property : Property) : WritesParameter resolver options owner property
      (FunctionSummary.parameterLine (property.said resolver options owner)) := by
  cases hname : resolver property.type.name with
  | none =>
    rw [said, renderedType_of_unresolved hname]
    exact .untyped hname
  | some qualified =>
    obtain ⟨type, htype, hrendered⟩ := renderedType_of_resolved options owner hname
    rw [said, hrendered]
    exact .typed hname htype

end Property

namespace Parts

variable (resolver : Resolver) (options : Options) (owner : String)

theorem reports_addAll (properties : List Property) (parts : Parts) :
    (addAll resolver options owner properties parts).2 =
      properties.flatMap fun property => (property.renderedType resolver options owner).2 := by
  induction properties generalizing parts with
  | nil => rfl
  | cons property rest ih =>
    rw [addAll_cons, List.flatMap_cons, ih]

end Parts

namespace Declaration

/-- How often a property is marked as returned, all marks counted. -/
def markers (declaration : Declaration) : Nat :=
  (declaration.properties.flatMap Property.annotations).countP fun mark =>
    mark.name = returnsAnnotation

section Named

variable (resolver : Resolver) (options : Options) {declaration : Declaration}

/-- What is reported about the properties of a declaration, in their order. -/
def propertyReports (declaration : Declaration) : DiagnosticLog :=
  declaration.properties.flatMap fun property =>
    (property.renderedType resolver options declaration.qualifiedName).2

/-- What is reported about the property that is marked as returned. -/
def returnReports (declaration : Declaration) : DiagnosticLog :=
  match declaration.properties.find? fun property => property.isAnnotated returnsAnnotation with
  | some property =>
    if (property.said resolver options declaration.qualifiedName).2.isSome then []
    else [declaration.unresolvedReturn property]
  | none => []

variable {resolver options}

theorem reports_assemble {parts : Parts} (h : parts.returned =
    (declaration.properties.find? fun property => property.isAnnotated returnsAnnotation).map
      fun property => (property, (property.said resolver options declaration.qualifiedName).2)) :
    (declaration.assemble parts).2 = declaration.returnReports resolver options := by
  rw [assemble, returnReports, h]
  cases declaration.properties.find? fun property => property.isAnnotated returnsAnnotation with
  | none => rfl
  | some property =>
    simp only [Option.map_some]
    cases (property.said resolver options declaration.qualifiedName).2 <;> rfl

theorem function_of_unnamed (hkind : declaration.kind = .interface) {e : GenerationError}
    (hname : declaration.functionName = .error e) :
    declaration.function resolver options = (.error e, []) := by
  rw [function, if_neg (Decidable.not_not.2 hkind), hname]

/-- The visit of a named interface, by the number of its marks. -/
theorem function_of_named (hkind : declaration.kind = .interface) {name : String}
    (hname : declaration.functionName = .ok name) :
    declaration.function resolver options =
      if 1 < declaration.markers then
        (.error (.ambiguousReturn declaration.qualifiedName declaration.markers),
          declaration.propertyReports resolver options)
      else (.ok (some (declaration.summaryNamed resolver options name).text),
        declaration.propertyReports resolver options ++
          declaration.returnReports resolver options) := by
  rw [function, if_neg (Decidable.not_not.2 hkind)]
  simp only [hname]
  by_cases hnone : declaration.properties = []
  · have hempty : declaration.properties.isEmpty = true := List.isEmpty_iff.2 hnone
    have hplain : plainFunction name = (declaration.summaryNamed resolver options name).text :=
      plainFunction_eq name hnone
    rw [if_pos hempty, hplain]
    simp [markers, propertyReports, returnReports, hnone]
  · have hsome : ¬declaration.properties.isEmpty = true := mt List.isEmpty_iff.1 hnone
    rw [if_neg hsome]
    generalize hparts : Parts.addAll resolver options declaration.qualifiedName
      declaration.properties ⟨Text.Indented.standard.blank.line ("fun " ++ name ++ "("),
        Text.Indented.standard.deeper, 0, none⟩ = all
    have htext : (declaration.assemble all.1).1 =
        (declaration.summaryNamed resolver options name).text := by
      rw [← hparts]
      exact assemble_eq name hnone
    have hlog : all.2 = declaration.propertyReports resolver options := by
      rw [← hparts, Parts.reports_addAll, propertyReports]
    have hmarkers : all.1.markers = declaration.markers := by
      rw [← hparts, Parts.markers_addAll, Nat.zero_add, markers]
    have hreturn : (declaration.assemble all.1).2 = declaration.returnReports resolver options := by
      refine reports_assemble ?_
      rw [← hparts, Parts.returned_addAll, Option.none_or]
    simp only [hlog, hmarkers, htext, hreturn]

end Named

section Marks

variable {declaration : Declaration}

/-- A property that carries the only mark of its declaration. -/
def OnlyMarked (declaration : Declaration) (property : Property) : Prop :=
  ∃ before later, declaration.properties = before ++ property :: later ∧
    property.annotationCount returnsAnnotation = 1 ∧
    ∀ other ∈ before ++ later, other.annotationCount returnsAnnotation = 0

theorem annotationCount_eq_zero_iff {property : Property} {name : String} :
    property.annotationCount name = 0 ↔ property.isAnnotated name = false := by
  rw [Property.isAnnotated, decide_eq_false_iff_not]
  omega

theorem countP_flatMap_annotations_eq_zero_iff {properties : List Property} {name : String} :
    ((properties.flatMap Property.annotations).countP fun mark => mark.name = name) = 0 ↔
      ∀ property ∈ properties, property.annotationCount name = 0 := by
  rw [List.countP_eq_zero, List.forall_mem_flatMap]
  apply forall₂_congr
  intro property _
  exact List.countP_eq_zero.symm

theorem find?_eq_none_iff_markers :
    (declaration.properties.find? fun property => property.isAnnotated returnsAnnotation) = none ↔
      declaration.markers = 0 := by
  rw [markers, countP_flatMap_annotations_eq_zero_iff, List.find?_eq_none]
  apply forall₂_congr
  intro property _
  rw [annotationCount_eq_zero_iff, Bool.not_eq_true]

/-- If there is one mark in all, the property that is found to be marked is the only one. -/
theorem exists_onlyMarked (h : declaration.markers = 1) :
    ∃ property, declaration.OnlyMarked property ∧
      (declaration.properties.find? fun property => property.isAnnotated returnsAnnotation) =
        some property := by
  cases hfind : declaration.properties.find? fun property =>
    property.isAnnotated returnsAnnotation with
  | none =>
    have hzero := find?_eq_none_iff_markers.1 hfind
    omega
  | some property =>
    obtain ⟨hmarked, before, later, hsplit, hbefore⟩ := List.find?_eq_some_iff_append.1 hfind
    have hunmarked : ∀ other ∈ before, other.annotationCount returnsAnnotation = 0 := by
      intro other hmem
      exact annotationCount_eq_zero_iff.2 (Bool.not_eq_true' _ ▸ hbefore other hmem)
    have hpositive : 0 < property.annotationCount returnsAnnotation := of_decide_eq_true hmarked
    rw [markers, hsplit, List.flatMap_append, List.flatMap_cons, List.countP_append,
      List.countP_append] at h
    rw [Property.annotationCount] at hpositive
    have hone : property.annotationCount returnsAnnotation = 1 := by
      rw [Property.annotationCount]
      omega
    have hlater : ∀ other ∈ later, other.annotationCount returnsAnnotation = 0 := by
      apply countP_flatMap_annotations_eq_zero_iff.1
      omega
    refine ⟨property, ⟨before, later, hsplit, hone, ?_⟩, rfl⟩
    exact List.forall_mem_append.2 ⟨hunmarked, hlater⟩

end Marks

/-- How a function returns: what stands in the line below its parameters, its return statement if
there is one, and what is reported about it. It returns a property that carries the only mark and
whose type resolves. -/
inductive WritesReturn (resolver : Resolver) (options : Options) (declaration : Declaration) :
    String → List String → DiagnosticLog → Prop
  | unmarked (hmarkers : declaration.markers = 0) :
      WritesReturn resolver options declaration ") \x7b" [] []
  | returned {property : Property} {qualified type : String} {reports : DiagnosticLog}
      (hmarkers : declaration.markers = 1) (hproperty : declaration.OnlyMarked property)
      (hresolves : resolver property.type.name = some qualified)
      (htype : Rendering.type resolver options.ignoreGenericArgs
        (property.symbol declaration.qualifiedName) property.type = .ok (type, reports)) :
      WritesReturn resolver options declaration ("): " ++ type ++ " \x7b")
        [Text.indented ("return " ++ property.name)] []
  | unresolved {property : Property} (hmarkers : declaration.markers = 1)
      (hproperty : declaration.OnlyMarked property)
      (hunresolved : resolver property.type.name = none) :
      WritesReturn resolver options declaration ") \x7b" [] [declaration.unresolvedReturn property]

/-- The text of a function and what is reported about its return value. Each property has one line
among the parameters and one print statement, in the order of the properties. -/
inductive WritesFunction (resolver : Resolver) (options : Options) (declaration : Declaration)
    (name : String) : String → DiagnosticLog → Prop
  | plain (hnone : declaration.properties = []) :
      WritesFunction resolver options declaration name
        (Text.joinLines ["", "fun " ++ name ++ "() \x7b",
          Text.indented ("println(\"Hello from " ++ name ++ "\")"), "\x7d"]) []
  | lines {parameters returning : List String} {below : String} {reports : DiagnosticLog}
      (hsome : declaration.properties ≠ [])
      (hparameters : List.Forall₂ (Property.WritesParameter resolver options
        declaration.qualifiedName) declaration.properties parameters)
      (hreturn : WritesReturn resolver options declaration below returning reports) :
      WritesFunction resolver options declaration name
        (Text.joinLines ("" :: ("fun " ++ name ++ "(") :: (parameters ++ below ::
          ((declaration.properties.map fun property =>
            Text.indented ("println(\"$" ++ property.name ++ "\")")) ++
          (returning ++ ["\x7d"]))))) reports

section Written

variable {resolver : Resolver} {options : Options} {declaration : Declaration}

theorem writesReturn_of_markers_le_one (resolver : Resolver) (options : Options)
    (h : declaration.markers ≤ 1) :
    WritesReturn resolver options declaration
      (FunctionSummary.bodyLine (declaration.returned? resolver options))
      (FunctionSummary.returnLines (declaration.returned? resolver options))
      (declaration.returnReports resolver options) := by
  rw [returned?, returnReports]
  rcases Nat.le_one_iff_eq_zero_or_eq_one.1 h with hmarkers | hmarkers
  · rw [find?_eq_none_iff_markers.2 hmarkers]
    exact .unmarked hmarkers
  · obtain ⟨property, hproperty, hfind⟩ := exists_onlyMarked hmarkers
    rw [hfind]
    cases hname : resolver property.type.name with
    | none =>
      simp only [Option.bind_some, Property.said, Property.renderedType_of_unresolved hname]
      exact .unresolved hmarkers hproperty hname
    | some qualified =>
      obtain ⟨type, htype, hrendered⟩ :=
        Property.renderedType_of_resolved options declaration.qualifiedName hname
      simp only [Option.bind_some, Property.said, hrendered]
      exact .returned hmarkers hproperty hname htype

theorem writesFunction_of_markers_le_one (name : String) (h : declaration.markers ≤ 1) :
    WritesFunction resolver options declaration name
      (declaration.summaryNamed resolver options name).text
      (declaration.returnReports resolver options) := by
  have hreturn := writesReturn_of_markers_le_one resolver options h
  by_cases hnone : declaration.properties = []
  · have hsummary : (declaration.summaryNamed resolver options name).parameters = [] := by
      rw [summaryNamed, hnone, List.map_nil]
    have hreports : declaration.returnReports resolver options = [] := by
      rw [returnReports, hnone, List.find?_nil]
    rw [hreports, FunctionSummary.text, FunctionSummary.lines, if_pos hsummary]
    exact .plain hnone
  · have hsummary : (declaration.summaryNamed resolver options name).parameters ≠ [] := by
      rwa [summaryNamed, ne_eq, List.map_eq_nil_iff]
    rw [FunctionSummary.text, FunctionSummary.lines, if_neg hsummary]
    have hparameters : List.Forall₂ (Property.WritesParameter resolver options
        declaration.qualifiedName) declaration.properties
        ((declaration.properties.map (Property.said resolver options
          declaration.qualifiedName)).map FunctionSummary.parameterLine) := by
      rw [List.map_map, List.forall₂_map_right_iff]
      exact List.forall₂_same.2 fun property _ => Property.writesParameter_said _ _ _ property
    have hlines : WritesFunction resolver options declaration name _ _ :=
      .lines hnone hparameters hreturn
    simpa [summaryNamed, FunctionSummary.printLine, Property.said, Function.comp_def] using hlines

end Written

/-- Visiting a declaration gives the function that it states, or tells what is wrong with it: that
it is no interface, whatever else is wrong, else that it is not annotated, that it has no name, or
that a property is marked as returned more than once, and then what is reported about its properties
stays. -/
theorem visit_is_specified (resolver : Resolver) (options : Options) (declaration : Declaration) :
    let owner := declaration.qualifiedName
    let visit := declaration.function resolver options
    let reports := declaration.properties.flatMap fun property =>
      (property.renderedType resolver options owner).2
    (declaration.kind ≠ .interface →
      visit = (.ok none, [.error "Only interfaces can be annotated with @Function" owner])) ∧
    (declaration.kind = .interface →
      (declaration.annotation? functionAnnotation = none →
        visit = (.error (.notAnnotated owner), [])) ∧
      ∀ mark, declaration.annotation? functionAnnotation = some mark →
        (mark.argument? nameArgument = none → visit = (.error (.missingArgument owner), [])) ∧
        ∀ name, mark.argument? nameArgument = some name →
          (1 < declaration.markers →
            visit = (.error (.ambiguousReturn owner declaration.markers), reports)) ∧
          (declaration.markers ≤ 1 → ∃ text returnReports,
            visit = (.ok (some text), reports ++ returnReports) ∧
            declaration.WritesFunction resolver options name text returnReports)) := by
  intro owner visit reports
  refine ⟨fun hkind => ?_, fun hkind => ⟨fun hmark => ?_, fun mark hmark => ⟨fun hargument => ?_,
    fun name hargument => ?_⟩⟩⟩
  · exact if_pos hkind
  · apply function_of_unnamed hkind
    rw [functionName, hmark]
  · apply function_of_unnamed hkind
    simp only [functionName, hmark, hargument, owner]
  · have hname : declaration.functionName = .ok name := by
      simp only [functionName, hmark, hargument]
    have hvisit : visit = _ := function_of_named hkind hname
    refine ⟨fun hmarkers => ?_, fun hmarkers => ?_⟩
    · rw [hvisit, if_pos hmarkers]
      rfl
    · rw [hvisit, if_neg (Nat.not_lt.2 hmarkers)]
      exact ⟨_, _, rfl, writesFunction_of_markers_le_one name hmarkers⟩

end Declaration

end FunctionForge
