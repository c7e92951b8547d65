import FunctionForge.Proofs.Function.Visit
import FunctionForge.Proofs.Pass.Deferred
import FunctionForge.Proofs.Symbol.Precedence

/-!
# Declarations that come later

Pushing declarations onto a unit only makes names known. A name that resolved still resolves, though
a declaration of the own package may take it over from a default import. What a name resolves to
stays the same unless a pushed name is the written one or ends in it. A visit asks for no names but
those that its property types mention, so it stays the same as long as these do.
-/

namespace FunctionForge

namespace SymbolTable

variable {table : SymbolTable} {names : List String} {written : String}

/-- The table in which further names were declared. -/
def withNames (table : SymbolTable) (names : List String) : SymbolTable :=
  table.after (names.map Change.declare)

theorem isKnown_withNames (name : String) :
    (table.withNames names).isKnown name ↔ name ∈ names ∨ table.isKnown name := by
  have hnames : (names.map Change.declare).map Change.name = names := by
    rw [List.map_map]
    exact List.map_id names
  rw [withNames, isKnown_after, hnames]

theorem package_withNames : (table.withNames names).package = table.package :=
  package_after table _

theorem imports_withNames : (table.withNames names).imports = table.imports := by
  have hnone : (names.map Change.declare).filterMap Change.imported? = [] := by
    simp [List.filterMap_eq_nil_iff, Change.imported?]
  rw [withNames, imports_after, hnone]
  rfl

theorem lastSegment_qualify (package : String) (h : ¬Text.isDotted written) :
    Text.lastSegment (Text.qualify package written) = written := by
  rw [Text.qualify]
  split
  · exact Text.lastSegment_of_not_dotted h
  · exact Text.lastSegment_append package h

theorem isSome_inPackage?_withNames {package : String}
    (h : (table.inPackage? package written).isSome) :
    ((table.withNames names).inPackage? package written).isSome := by
  obtain ⟨qualified, hqualified⟩ := Option.isSome_iff_exists.1 h
  obtain ⟨rfl, hknown⟩ := inPackage?_eq_some hqualified
  rw [inPackage?_of_isKnown ((isKnown_withNames _).2 (.inr hknown))]
  rfl

/-- A name that resolves goes on to resolve. -/
theorem isSome_resolve?_withNames (h : (table.resolve? written).isSome) :
    ((table.withNames names).resolve? written).isSome := by
  by_cases hdotted : Text.isDotted written
  · rw [resolve?, if_pos hdotted] at h ⊢
    split at h
    · next hknown =>
      rw [if_pos ((isKnown_withNames written).2 (.inr hknown))]
      rfl
    · cases h
  · rw [resolve?, if_neg hdotted, Option.isSome_or, Option.isSome_or, Bool.or_eq_true,
      Bool.or_eq_true, List.isSome_findSome?, List.any_eq_true] at h ⊢
    rw [imports_withNames, package_withNames]
    refine h.imp_right (Or.imp isSome_inPackage?_withNames ?_)
    rintro ⟨package, hmem, hsome⟩
    exact ⟨package, hmem, isSome_inPackage?_withNames hsome⟩

theorem inPackage?_withNames (package : String) (hplain : ¬Text.isDotted written)
    (h : ∀ name ∈ names, Text.lastSegment name ≠ written) :
    (table.withNames names).inPackage? package written = table.inPackage? package written := by
  have hnew : Text.qualify package written ∉ names := by
    intro hmem
    exact h _ hmem (lastSegment_qualify package hplain)
  have hknown : (table.withNames names).isKnown (Text.qualify package written) =
      table.isKnown (Text.qualify package written) := by
    rw [Bool.eq_iff_iff, isKnown_withNames, or_iff_right hnew]
  rw [inPackage?, inPackage?, hknown]

/-- A name resolves as before if no new name is that name or ends in it. -/
theorem resolve?_withNames
    (h : ∀ name ∈ names, name ≠ written ∧ Text.lastSegment name ≠ written) :
    (table.withNames names).resolve? written = table.resolve? written := by
  by_cases hdotted : Text.isDotted written
  · have hnew : written ∉ names := by
      intro hmem
      exact (h written hmem).1 rfl
    have hknown : (table.withNames names).isKnown written = table.isKnown written := by
      rw [Bool.eq_iff_iff, isKnown_withNames, or_iff_right hnew]
    rw [resolve?, resolve?, if_pos hdotted, if_pos hdotted, hknown]
  · have hends : ∀ name ∈ names, Text.lastSegment name ≠ written := by
      intro name hmem
      exact (h name hmem).2
    rw [resolve?, resolve?, if_neg hdotted, if_neg hdotted]
    simp only [imports_withNames, package_withNames, inPackage?_withNames _ hdotted hends]

end SymbolTable

theorem CompilationUnit.resolver_foldl_push (unit : CompilationUnit) (more : List Declaration) :
    (more.foldl push unit).resolver =
      (unit.table.withNames (more.map Declaration.qualifiedName)).resolve? := by
  have htable : (more.foldl push unit).table =
      unit.table.withNames (more.map Declaration.qualifiedName) := by
    induction more generalizing unit with
    | nil => rfl
    | cons declaration rest ih =>
      rw [List.foldl_cons, ih]
      rfl
  rw [resolver, htable]

/-! ### Resolvers that agree on names -/

namespace Rendering

variable {left right : Resolver}

mutual

theorem slot_congr (suppress : Bool) (argument : TypeArg)
    (h : ∀ name ∈ argument.names, left name = right name) :
    slot left suppress argument = slot right suppress argument := by
  cases argument with
  | star => rfl
  | projected projection type =>
    cases type with
    | mk name nullable arguments =>
      rw [TypeArg.names, TypeRef.names, List.forall_mem_cons] at h
      rw [slot, slot, h.1, slots_congr suppress arguments h.2]

theorem slots_congr (suppress : Bool) (list : List TypeArg)
    (h : ∀ name ∈ TypeArg.namesOf list, left name = right name) :
    slots left suppress list = slots right suppress list := by
  cases list with
  | nil => rfl
  | cons argument rest =>
    rw [TypeArg.namesOf, List.forall_mem_append] at h
    rw [slots, slots, slot_congr suppress argument h.1, slots_congr suppress rest h.2]

end

mutual

theorem slotReports_congr (suppress : Bool) (symbol : String) (argument : TypeArg)
    (h : ∀ name ∈ argument.names, left name = right name) :
    slotReports left suppress symbol argument = slotReports right suppress symbol argument := by
  cases argument with
  | star => rfl
  | projected projection type =>
    cases type with
    | mk name nullable arguments =>
      rw [TypeArg.names, TypeRef.names, List.forall_mem_cons] at h
      rw [slotReports, slotReports, h.1, clauseReports_congr suppress symbol arguments h.2]

theorem clauseReports_congr (suppress : Bool) (symbol : String) (list : List TypeArg)
    (h : ∀ name ∈ TypeArg.namesOf list, left name = right name) :
    clauseReports left suppress symbol list = clauseReports right suppress symbol list := by
  cases list with
  | nil => rfl
  | cons argument rest =>
    rw [TypeArg.namesOf, List.forall_mem_append] at h
    rw [clauseReports, clauseReports, slotReports_congr suppress symbol argument h.1,
      clauseReports_congr suppress symbol rest h.2]

end

/-- A type is rendered alike where its names resolve alike. -/
theorem type_congr (suppress : Bool) (symbol : String) (reference : TypeRef)
    (h : ∀ name ∈ reference.names, left name = right name) :
    type left suppress symbol reference = type right suppress symbol reference := by
  cases reference with
  | mk name nullable list =>
    rw [TypeRef.names, List.forall_mem_cons] at h
    have harguments : arguments left suppress symbol list =
        arguments right suppress symbol list := by
      rw [arguments_eq, arguments_eq, clause, clause, slots_congr suppress list h.2,
        clauseReports_congr suppress symbol list h.2]
    rw [type, type, h.1, harguments]

end Rendering

namespace Declaration

variable {left right : Resolver}

/-- The names that the types of the properties mention, at any depth. -/
def names (declaration : Declaration) : List String :=
  declaration.properties.flatMap fun property => property.type.names

theorem addAll_congr (options : Options) (owner : String) (properties : List Property)
    (parts : Parts)
    (h : ∀ name ∈ properties.flatMap fun property => property.type.names,
      left name = right name) :
    Parts.addAll left options owner properties parts =
      Parts.addAll right options owner properties parts := by
  induction properties generalizing parts with
  | nil => rfl
  | cons property rest ih =>
    rw [List.flatMap_cons, List.forall_mem_append] at h
    have hfragments : property.fragments left options owner =
        property.fragments right options owner := by
      rw [Property.fragments, Property.fragments, Property.renderedType, Property.renderedType,
        Rendering.type_congr _ _ _ h.1]
    simp only [Parts.addAll, hfragments, ih _ h.2]

/-- A visit asks for the names in the types of the properties only. -/
theorem function_congr (options : Options) (declaration : Declaration)
    (h : ∀ name ∈ declaration.names, left name = right name) :
    declaration.function left options = declaration.function right options := by
  simp only [function, addAll_congr options _ _ _ h]

theorem isResolvable_iff_names {resolver : Resolver} (declaration : Declaration) :
    Pass.isResolvable resolver declaration = true ↔
      ∀ name ∈ declaration.names, (resolver name).isSome := by
  rw [Pass.isResolvable_iff, not_mentionsUnresolved_iff, names, List.forall_mem_flatMap]

end Declaration

namespace CompilationUnit

theorem declarations_subset_foldl_push (unit : CompilationUnit) (more : List Declaration) :
    unit.declarations ⊆ (more.foldl push unit).declarations := by
  induction more generalizing unit with
  | nil => exact List.Subset.refl _
  | cons declaration rest ih =>
    intro other hmem
    exact ih (unit.push declaration) (List.mem_append_left _ hmem)

/-- Pushing more declarations is safe for those that are there. Names that resolve go on to resolve,
so no declaration comes to be deferred, and if no pushed name is a name that a declaration mentions
or ends in one, then a visit of the declaration gives the same result and the same reports. -/
theorem push_keeps_visits (unit : CompilationUnit) (more : List Declaration) :
    let grown := more.foldl push unit
    ∀ declaration ∈ unit.declarations,
      declaration ∈ grown.declarations ∧
      (∀ name ∈ declaration.names,
        (unit.resolver name).isSome → (grown.resolver name).isSome) ∧
      (Pass.isResolvable unit.resolver declaration = true →
        Pass.isResolvable grown.resolver declaration = true) ∧
      ((∀ pushed ∈ more, ∀ name ∈ declaration.names,
          pushed.qualifiedName ≠ name ∧ Text.lastSegment pushed.qualifiedName ≠ name) →
        ∀ options, declaration.function grown.resolver options =
          declaration.function unit.resolver options) := by
  intro grown declaration hmem
  have hgrown : grown.resolver =
      (unit.table.withNames (more.map Declaration.qualifiedName)).resolve? :=
    resolver_foldl_push unit more
  have hresolves : ∀ name ∈ declaration.names,
      (unit.resolver name).isSome → (grown.resolver name).isSome := by
    intro name _ hsome
    rw [hgrown]
    exact SymbolTable.isSome_resolve?_withNames hsome
  refine ⟨declarations_subset_foldl_push unit more hmem, hresolves, fun hresolvable => ?_,
    fun hfresh options => ?_⟩
  · rw [Declaration.isResolvable_iff_names] at hresolvable ⊢
    intro name hname
    exact hresolves name hname (hresolvable name hname)
  · apply Declaration.function_congr
    intro name hname
    rw [hgrown]
    apply SymbolTable.resolve?_withNames
    rw [List.forall_mem_map]
    intro pushed hpushed
    exact hfresh pushed hpushed name hname

/-- Another name of the same package leaves a list of the default imports alone. -/
theorem push_keeps_visits_of_basket :
    let list := TypeRef.mk "List" false [.projected .covariant (.mk "Int" true [])]
    let basket := Declaration.mk "Basket" "com.example" .interface
      [.mk functionAnnotation [(nameArgument, "pack")]] [.mk "items" list []]
    let unit := (ofTable (.standard "com.example")).push basket
    let crate := Declaration.mk "Crate" "com.example" .object [] []
    basket ∈ unit.declarations ∧
      Pass.isResolvable unit.resolver basket = true ∧
      Pass.isResolvable (unit.push crate).resolver basket = true ∧
      (∀ name ∈ basket.names,
        crate.qualifiedName ≠ name ∧ Text.lastSegment crate.qualifiedName ≠ name) ∧
      basket.function (unit.push crate).resolver .default = (.ok (some
        ("\nfun pack(\n    items: kotlin.collections.List<out kotlin.Int?>,\n) \x7b\n" ++
          "    println(\"$items\")\n\x7d\n")), []) := by
  intro list basket unit crate
  have hmem : basket ∈ unit.declarations := List.mem_singleton_self basket
  have hresolvable : Pass.isResolvable unit.resolver basket = true := by decide +kernel
  have hfresh : ∀ name ∈ basket.names,
      crate.qualifiedName ≠ name ∧ Text.lastSegment crate.qualifiedName ≠ name := by
    decide +kernel
  obtain ⟨-, -, hkept, hsame⟩ := push_keeps_visits unit [crate] basket hmem
  refine ⟨hmem, hresolvable, hkept hresolvable, hfresh, ?_⟩
  have hvisit : basket.function (unit.push crate).resolver .default =
      basket.function unit.resolver .default :=
    hsame (List.forall_mem_singleton.2 hfresh) .default
  rw [hvisit]
  decide +kernel

-- A list of the own package takes the name over.
example :
    let unit := ofTable (.standard "com.example")
    let list := Declaration.mk "List" "com.example" .plainClass [] []
    unit.resolver "List" = some "kotlin.collections.List" ∧
      (unit.push list).resolver "List" = some "com.example.List" := by
  decide +kernel

end CompilationUnit

end FunctionForge
