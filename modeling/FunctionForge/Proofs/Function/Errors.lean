import FunctionForge.Proofs.Function.Visit
import FunctionForge.Proofs.Pass.Deferred
import FunctionForge.Proofs.Rendering.Unresolved

/-!
# The errors of a visit

What a visit of a named interface reports as errors are the names in its property types that dangle.
A name stands inside others, so a name that does not resolve may go unreported, but then one around
it was reported. That is why a visit reports no error if and only if the search after the pass finds
nothing, though the search looks at all names and takes them in another order.
-/

namespace FunctionForge

/-- The error about a name that dangles in the type of a property. -/
def Property.danglingReport (owner : String) (property : Property) (mention : Mention) :
    Diagnostic :=
  if mention.enclosing = [] then
    .error ("Invalid property type '" ++ mention.name ++ "'") (property.symbol owner)
  else .error ("Invalid type argument '" ++ mention.name ++ "'") (property.symbol owner)

namespace Declaration

/-- The names that the types of the properties mention, in their order. -/
def mentions (declaration : Declaration) : List (Property × Mention) :=
  declaration.properties.flatMap fun property =>
    property.type.mentions.map fun mention => (property, mention)

/-- The names that dangle in the types of the properties, in their order. -/
def dangling (resolver : Resolver) (declaration : Declaration) : List (Property × Mention) :=
  declaration.mentions.filter fun mentioned => mentioned.2.Dangles resolver

end Declaration

section Property

variable {resolver : Resolver} {options : Options} {owner : String} {property : Property}

theorem Property.isError_danglingReport (mention : Mention) :
    (property.danglingReport owner mention).isError = true := by
  rw [danglingReport]
  split <;> rfl

/-- Inside the arguments of a type every name has one around it. -/
theorem Property.map_danglingReport {enclosing : List String} (henclosing : enclosing ≠ [])
    (arguments : List TypeArg) :
    ((TypeArg.mentionsOf enclosing arguments).filter (Mention.Dangles resolver)).map
        (property.danglingReport owner) =
      ((TypeArg.mentionsOf enclosing arguments).filter (Mention.Dangles resolver)).map
        fun mention => Rendering.invalidArgument mention.name (property.symbol owner) := by
  apply List.map_congr_left
  intro mention hmem
  have hinside : mention.enclosing ≠ [] := by
    intro hnone
    have hsubset := TypeArg.enclosing_subset_of enclosing arguments mention
      (List.mem_of_mem_filter hmem)
    rw [hnone] at hsubset
    exact henclosing (List.subset_nil.1 hsubset)
  exact if_neg hinside

theorem Property.renderedType_reports (h : options.ignoreGenericArgs = false) :
    (property.renderedType resolver options owner).2 =
      (property.type.mentions.filter (Mention.Dangles resolver)).map
        (property.danglingReport owner) := by
  have hnone : ∀ outer ∈ ([] : List String), (resolver outer).isSome :=
    List.forall_mem_nil _
  rcases htype : property.type with ⟨name, nullable, arguments⟩
  have htypeName : property.type.name = name := by rw [htype]; rfl
  cases hname : resolver name with
  | none =>
    have hfilter := Rendering.filter_mentionsIn_of_unresolved hname hnone nullable arguments
    rw [TypeRef.mentions, hfilter, renderedType_of_unresolved (by rwa [htypeName]), htypeName]
    rfl
  | some qualified =>
    obtain ⟨type, -, hrendered⟩ := renderedType_of_resolved options owner
      (show resolver property.type.name = some qualified by rwa [htypeName])
    have hfilter := Rendering.filter_mentionsIn_of_resolved [] hname nullable arguments
    rw [TypeRef.mentions, hfilter, map_danglingReport (List.cons_ne_nil name []), hrendered, h,
      ← Rendering.clauseReports_eq_dangling _ (Rendering.forall_mem_cons_isSome hname hnone)]
    rw [htype]
    rfl

theorem Property.renderedType_reports_of_suppressed (h : options.ignoreGenericArgs = true) :
    (property.renderedType resolver options owner).2 =
      if (resolver property.type.name).isNone then
        [property.danglingReport owner ⟨property.type.name, []⟩]
      else [] := by
  cases hname : resolver property.type.name with
  | none =>
    rw [renderedType_of_unresolved hname]
    rfl
  | some qualified =>
    obtain ⟨type, -, hrendered⟩ := renderedType_of_resolved options owner hname
    rw [hrendered, h, Rendering.clauseReports_suppressed]
    rfl

end Property

namespace Declaration

variable {resolver : Resolver} {options : Options} {declaration : Declaration}

theorem errors_returnReports (declaration : Declaration) :
    DiagnosticLog.errors (declaration.returnReports resolver options) = [] := by
  rw [returnReports]
  split
  · split
    · rfl
    · rfl
  · rfl

/-- What is reported about a returned property is no error, so the number of marks does not matter.
-/
theorem errors_function (hkind : declaration.kind = .interface) {name : String}
    (hname : declaration.functionName = .ok name) :
    DiagnosticLog.errors (declaration.function resolver options).2 =
      DiagnosticLog.errors (declaration.propertyReports resolver options) := by
  rw [function_of_named hkind hname]
  split
  · rfl
  · rw [DiagnosticLog.errors, List.filter_append]
    exact (congrArg _ (errors_returnReports declaration)).trans (List.append_nil _)

theorem dangling_eq_flatMap (declaration : Declaration) :
    declaration.dangling resolver = declaration.properties.flatMap fun property =>
      (property.type.mentions.filter (Mention.Dangles resolver)).map
        fun mention => (property, mention) := by
  rw [dangling, mentions, List.filter_flatMap]
  apply List.flatMap_congr
  intro property _
  exact List.filter_map

theorem dangling_eq_nil_iff (declaration : Declaration) :
    declaration.dangling resolver = [] ↔ Pass.isResolvable resolver declaration = true := by
  rw [Pass.isResolvable_iff, not_mentionsUnresolved_iff, dangling_eq_flatMap,
    List.flatMap_eq_nil_iff]
  apply forall₂_congr
  intro property _
  rw [List.map_eq_nil_iff, Rendering.filter_mentions_eq_nil_iff]

theorem propertyReports_eq_dangling (h : options.ignoreGenericArgs = false)
    (declaration : Declaration) :
    declaration.propertyReports resolver options = (declaration.dangling resolver).map
      fun mentioned => mentioned.1.danglingReport declaration.qualifiedName mentioned.2 := by
  rw [propertyReports, dangling_eq_flatMap, List.map_flatMap]
  apply List.flatMap_congr
  intro property _
  rw [Property.renderedType_reports h, List.map_map]
  rfl

theorem propertyReports_of_suppressed (h : options.ignoreGenericArgs = true)
    (declaration : Declaration) :
    declaration.propertyReports resolver options =
      (declaration.properties.filter fun property =>
          (resolver property.type.name).isNone).map fun property =>
        property.danglingReport declaration.qualifiedName ⟨property.type.name, []⟩ := by
  rw [propertyReports]
  induction declaration.properties with
  | nil => rfl
  | cons property rest ih =>
    rw [List.flatMap_cons, ih, Property.renderedType_reports_of_suppressed h, List.filter_cons]
    split
    · rfl
    · rfl

/-- The errors of a visit of a named interface are the names that dangle in its property types, in
written order, each about its property, and there are none if and only if the search finds none.
With generic arguments ignored they are the property types whose own names do not resolve. -/
theorem errors_are_dangling (resolver : Resolver) (options : Options) (declaration : Declaration)
    (hkind : declaration.kind = .interface) {name : String}
    (hname : declaration.functionName = .ok name) :
    let owner := declaration.qualifiedName
    let errors := DiagnosticLog.errors (declaration.function resolver options).2
    (options.ignoreGenericArgs = false →
      errors = (declaration.dangling resolver).map (fun mentioned =>
        mentioned.1.danglingReport owner mentioned.2) ∧
      errors.length = declaration.mentions.countP (fun mentioned =>
        mentioned.2.Dangles resolver) ∧
      (errors.length = 0 ↔ Pass.isResolvable resolver declaration = true)) ∧
    (options.ignoreGenericArgs = true →
      errors = (declaration.properties.filter fun property =>
          (resolver property.type.name).isNone).map (fun property =>
        property.danglingReport owner ⟨property.type.name, []⟩) ∧
      errors.length = declaration.properties.countP fun property =>
        (resolver property.type.name).isNone) := by
  intro owner errors
  have hvisit : errors = DiagnosticLog.errors (declaration.propertyReports resolver options) :=
    errors_function hkind hname
  refine ⟨fun hgeneric => ?_, fun hignored => ?_⟩
  · have herrors : errors = (declaration.dangling resolver).map fun mentioned =>
        mentioned.1.danglingReport owner mentioned.2 := by
      rw [hvisit, propertyReports_eq_dangling hgeneric, DiagnosticLog.errors, List.filter_eq_self,
        List.forall_mem_map]
      exact fun mentioned _ => mentioned.1.isError_danglingReport mentioned.2
    have hlength : errors.length = (declaration.dangling resolver).length := by
      rw [herrors, List.length_map]
    refine ⟨herrors, ?_, ?_⟩
    · rw [hlength, List.countP_eq_length_filter]
      rfl
    · rw [hlength, List.length_eq_zero_iff]
      exact dangling_eq_nil_iff declaration
  · have herrors : errors = (declaration.properties.filter fun property =>
          (resolver property.type.name).isNone).map fun property =>
        property.danglingReport owner ⟨property.type.name, []⟩ := by
      rw [hvisit, propertyReports_of_suppressed hignored, DiagnosticLog.errors,
        List.filter_eq_self, List.forall_mem_map]
      exact fun property _ => property.isError_danglingReport _
    refine ⟨herrors, ?_⟩
    rw [herrors, List.length_map, List.countP_eq_length_filter]

/-- A name inside one that dangles is not reported, and the others come in written order. -/
theorem errors_are_dangling_of_nested :
    let resolver : Resolver := fun name => if name = "List" then some "kotlin.List" else none
    let argument (name : String) (arguments : List TypeArg) : TypeArg :=
      .projected .invariant (.mk name false arguments)
    let items := Property.mk "items" (.mk "List" false [argument "Widget" [argument "Gadget" []],
      argument "List" [argument "Gizmo" []]]) []
    let declaration := Declaration.mk "Broken" "" .interface
      [.mk functionAnnotation [(nameArgument, "make")]] [items]
    declaration.functionName = .ok "make" ∧
      DiagnosticLog.errors (declaration.function resolver .default).2 =
        [.error "Invalid type argument 'Widget'" "Broken.items",
          .error "Invalid type argument 'Gizmo'" "Broken.items"] ∧
      Pass.isResolvable resolver declaration = false := by
  intro resolver argument items declaration
  have hname : declaration.functionName = .ok "make" := rfl
  obtain ⟨hgeneric, -⟩ := errors_are_dangling resolver .default declaration rfl hname
  obtain ⟨herrors, -, hnone⟩ := hgeneric rfl
  have htwo : DiagnosticLog.errors (declaration.function resolver .default).2 =
      [.error "Invalid type argument 'Widget'" "Broken.items",
        .error "Invalid type argument 'Gizmo'" "Broken.items"] := by
    rw [herrors]
    decide +kernel
  refine ⟨hname, htwo, Bool.eq_false_iff.2 fun hresolvable => ?_⟩
  have hlength := hnone.2 hresolvable
  rw [htwo] at hlength
  cases hlength

end Declaration

end FunctionForge
