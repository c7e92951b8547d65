import Mathlib.Data.List.Forall2
import FunctionForge.Proofs.Manifest.Rules

/-!
# What becomes of a manifest

A manifest gives a unit if and only if it is valid, the unit states all that the manifest does, and
the error of a manifest that is not valid is of the kind of the first rule that it breaks.
-/

namespace FunctionForge

namespace Name

theorem check_enforced (source context name : String) :
    Enforced (Manifest.nameRules name) (check source context name) := by
  rw [check]
  by_cases hkeyword : isKeyword name
  · rw [if_pos hkeyword]
    exact .broken (fun h => h (List.contains_iff_mem.1 hkeyword)) rfl
  · rw [if_neg hkeyword]
    refine .cons (fun h => hkeyword (List.contains_iff_mem.2 h)) ?_
    cases hfault : fault? name.toList with
    | none => exact .cons ((fault?_eq_none_iff _).1 hfault) (.nil ())
    | some fault =>
      refine .broken (fun h => ?_) rfl
      rw [(fault?_eq_none_iff _).2 h] at hfault
      cases hfault

theorem checkDotted_enforced (source context name : String) :
    Enforced [Manifest.dottedRule name] (checkDotted source context name) := by
  rw [checkDotted]
  by_cases hempty : name = ""
  · rw [if_pos hempty]
    exact .cons (.inl hempty) (.nil ())
  · rw [if_neg hempty]
    cases hfault : dottedFault? name with
    | none => exact .cons (.inr ((dottedFault?_eq_none_iff name).1 hfault)) (.nil ())
    | some fault =>
      refine .broken (fun h => ?_) rfl
      rw [(dottedFault?_eq_none_iff name).2 (h.resolve_left hempty)] at hfault
      cases hfault

end Name

namespace Kind

theorem name_of_ofName? {name : String} {kind : Kind} (h : ofName? name = some kind) :
    kind.name = name := by
  have hname := List.find?_some h
  exact of_decide_eq_true hname

theorem mem_kindNames_of_ofName? {name : String} {kind : Kind} (h : ofName? name = some kind) :
    name ∈ Manifest.kindNames := by
  rw [← name_of_ofName? h]
  cases kind <;> decide

theorem exists_of_mem_kindNames {name : String} (h : name ∈ Manifest.kindNames) :
    ∃ kind : Kind, kind.name = name := by
  have hnames : Manifest.kindNames = all.map Kind.name := rfl
  rw [hnames] at h
  obtain ⟨kind, -, hname⟩ := List.mem_map.1 h
  exact ⟨kind, hname⟩

end Kind

namespace Manifest

variable (source : String)

theorem checkFresh_enforced (context : String) (seen : List String) (name : String) :
    Enforced [⟨name ∉ seen, .duplicate⟩] (checkFresh source context seen name) := by
  rw [checkFresh]
  by_cases hseen : seen.contains name
  · rw [if_pos hseen]
    exact .broken (fun h => h (List.contains_iff_mem.1 hseen)) rfl
  · rw [if_neg hseen]
    exact .cons (fun h => hseen (List.contains_iff_mem.2 h)) (.nil ())

/-- The names seen and their last segments are two lists; conflicts are looked for in the first and
stated about the second. -/
theorem checkImports_enforced (seen names : List String) :
    Enforced (inOrder Text.lastSegment importRules (seen.map Text.lastSegment) names)
      (checkImports source seen names) := by
  induction names generalizing seen with
  | nil => exact .nil ()
  | cons name rest ih =>
    refine (Name.checkDotted_enforced source "import" name).bind fun _ _ => ?_
    cases hfind : seen.find? fun other => Text.lastSegment other = Text.lastSegment name with
    | some other =>
      refine .broken (fun h => h ?_) rfl
      have hsame := List.find?_some hfind
      exact List.mem_map.2 ⟨other, List.mem_of_find?_eq_some hfind, of_decide_eq_true hsame⟩
    | none =>
      refine .cons (fun h => ?_) (ih (name :: seen))
      obtain ⟨other, hmem, hsame⟩ := List.mem_map.1 h
      exact List.find?_eq_none.1 hfind other hmem (decide_eq_true hsame)

theorem kindOf_enforced (kind : Option String) :
    Enforced [⟨∀ name, kind = some name → name ∈ kindNames, .unknownKind⟩]
      (kindOf source kind) := by
  cases kind with
  | none => exact .cons (fun _ h => nomatch h) (.nil Kind.default)
  | some name =>
    rw [kindOf]
    cases hkind : Kind.ofName? name with
    | some kind =>
      refine .cons ?_ (.nil kind)
      rintro _ ⟨⟩
      exact Kind.mem_kindNames_of_ofName? hkind
    | none =>
      refine .broken (fun h => ?_) rfl
      obtain ⟨kind, hname⟩ := Kind.exists_of_mem_kindNames (h name rfl)
      rw [← hname, Kind.ofName?_name] at hkind
      cases hkind

theorem typeOf_enforced (text : String) :
    Enforced [⟨∃ type, TypeExpr.parse text = .ok type, .badType⟩] (typeOf source text) := by
  rw [typeOf]
  split
  · next type hparse => exact .cons ⟨type, hparse⟩ (.nil type)
  · next e hparse =>
    refine .broken (fun ⟨type, h⟩ => ?_) rfl
    rw [hparse] at h
    cases h

variable {source} in
theorem name_of_kindOf {name : String} {kind : Kind} (h : kindOf source (some name) = .ok kind) :
    kind.name = name := by
  rw [kindOf] at h
  split at h
  · next hkind =>
    cases h
    exact Kind.name_of_ofName? hkind
  · cases h

variable {source} in
theorem parse_of_typeOf {text : String} {type : TypeRef} (h : typeOf source text = .ok type) :
    TypeExpr.parse text = .ok type := by
  rw [typeOf] at h
  split at h
  · next hparse =>
    cases h
    exact hparse
  · cases h

theorem propertiesOf_enforced (owner : String) (seen : List String) (entries : List PropertyEntry) :
    Enforced (inOrder PropertyEntry.name propertyRules seen entries)
      (propertiesOf source owner seen entries) := by
  induction entries generalizing seen with
  | nil => exact .nil []
  | cons entry rest ih =>
    refine (Name.check_enforced source (propertyContext owner) entry.name).bind fun _ _ => ?_
    refine (checkFresh_enforced source (propertyContext owner) seen entry.name).bind fun _ _ => ?_
    refine (typeOf_enforced source entry.type).bind fun type _ => ?_
    exact (ih (entry.name :: seen)).map

theorem declarationOf_enforced (package : String) (entry : DeclarationEntry) :
    Enforced (⟨∀ name, entry.kind = some name → name ∈ kindNames, .unknownKind⟩ ::
        inOrder PropertyEntry.name propertyRules [] entry.properties)
      (declarationOf source package entry) := by
  refine (kindOf_enforced source entry.kind).bind fun kind _ => ?_
  exact (propertiesOf_enforced source entry.name [] entry.properties).map

theorem declarationsOf_enforced (package : String) (seen : List String)
    (entries : List DeclarationEntry) :
    Enforced (inOrder DeclarationEntry.name declarationRules seen entries)
      (declarationsOf source package seen entries) := by
  induction entries generalizing seen with
  | nil => exact .nil []
  | cons entry rest ih =>
    refine (Name.check_enforced source "declaration" entry.name).bind fun _ _ => ?_
    refine (checkFresh_enforced source "declaration" seen entry.name).bind fun _ _ => ?_
    refine (declarationOf_enforced source package entry).bind fun declaration _ => ?_
    exact (ih (entry.name :: seen)).map

theorem toUnit_enforced (manifest : Manifest) :
    Enforced manifest.rules (manifest.toUnit source) := by
  rw [rules, List.append_assoc, List.append_assoc]
  refine (Name.checkDotted_enforced source "package" manifest.source.package).bind fun _ _ => ?_
  refine (Name.checkDotted_enforced source "output package" manifest.output.package).bind
    fun _ _ => ?_
  refine (Name.check_enforced source "output file" manifest.output.file).bind fun _ _ => ?_
  refine (checkImports_enforced source [] manifest.source.imports).bind fun _ _ => ?_
  exact (declarationsOf_enforced source manifest.source.package [] manifest.declarations).map

end Manifest

structure PropertyEntry.Valid (entry : PropertyEntry) : Prop where
  name : Name.IsName entry.name
  type : ∃ type, TypeExpr.parse entry.type = .ok type

structure DeclarationEntry.Valid (entry : DeclarationEntry) : Prop where
  name : Name.IsName entry.name
  kind (name : String) : entry.kind = some name → name ∈ Manifest.kindNames
  properties : ∀ property ∈ entry.properties, property.Valid
  distinctProperties : (entry.properties.map PropertyEntry.name).Nodup

namespace Manifest

structure Valid (manifest : Manifest) : Prop where
  package : Name.IsDotted manifest.source.package
  outputPackage : Name.IsDotted manifest.output.package
  outputFile : Name.IsName manifest.output.file
  imports : ∀ name ∈ manifest.source.imports, Name.IsDotted name
  distinctImports : (manifest.source.imports.map Text.lastSegment).Nodup
  declarations : ∀ entry ∈ manifest.declarations, entry.Valid
  distinctDeclarations : (manifest.declarations.map DeclarationEntry.name).Nodup

inductive SameAnnotation : AnnotationEntry → Annotation → Prop
  | marker (name : String) : SameAnnotation (.marker name) ⟨name, []⟩
  | full (name : String) (arguments : List (String × String)) :
      SameAnnotation (.full name arguments) ⟨name, arguments⟩

structure SameProperty (entry : PropertyEntry) (property : Property) : Prop where
  name : property.name = entry.name
  type : TypeExpr.parse entry.type = .ok property.type
  annotations : List.Forall₂ SameAnnotation entry.annotations property.annotations

/-- A declaration of a package that says what its entry says. -/
structure SameDeclaration (package : String) (entry : DeclarationEntry)
    (declaration : Declaration) : Prop where
  name : declaration.name = entry.name
  package : declaration.package = package
  absentKind : entry.kind = none → declaration.kind = .interface
  kind (name : String) : entry.kind = some name → declaration.kind.name = name
  annotations : List.Forall₂ SameAnnotation entry.annotations declaration.annotations
  properties : List.Forall₂ SameProperty entry.properties declaration.properties

variable {source}

theorem sameAnnotations (entries : List AnnotationEntry) :
    List.Forall₂ SameAnnotation entries (entries.map AnnotationEntry.mark) := by
  induction entries with
  | nil => exact .nil
  | cons entry rest ih =>
    cases entry with
    | marker name => exact .cons (.marker name) ih
    | full name arguments => exact .cons (.full name arguments) ih

theorem sameProperties {owner : String} {seen : List String} {entries : List PropertyEntry}
    {properties : List Property}
    (h : propertiesOf source owner seen entries = .ok properties) :
    List.Forall₂ SameProperty entries properties := by
  induction entries generalizing seen properties with
  | nil =>
    cases h
    exact .nil
  | cons entry rest ih =>
    obtain ⟨_, -, h⟩ := exists_of_bind_eq_ok h
    obtain ⟨_, -, h⟩ := exists_of_bind_eq_ok h
    obtain ⟨type, htype, h⟩ := exists_of_bind_eq_ok h
    obtain ⟨others, hothers, h⟩ := exists_of_bind_eq_ok h
    cases h
    exact .cons ⟨rfl, parse_of_typeOf htype, sameAnnotations entry.annotations⟩ (ih hothers)

theorem sameDeclaration {package : String} {entry : DeclarationEntry} {declaration : Declaration}
    (h : declarationOf source package entry = .ok declaration) :
    SameDeclaration package entry declaration := by
  obtain ⟨kind, hkind, h⟩ := exists_of_bind_eq_ok h
  obtain ⟨properties, hproperties, h⟩ := exists_of_bind_eq_ok h
  cases h
  refine ⟨rfl, rfl, fun hnone => ?_, fun name hname => ?_,
    sameAnnotations entry.annotations, sameProperties hproperties⟩
  · rw [hnone] at hkind
    cases hkind
    rfl
  · rw [hname] at hkind
    exact name_of_kindOf hkind

theorem sameDeclarations {package : String} {seen : List String} {entries : List DeclarationEntry}
    {declarations : List Declaration}
    (h : declarationsOf source package seen entries = .ok declarations) :
    List.Forall₂ (SameDeclaration package) entries declarations := by
  induction entries generalizing seen declarations with
  | nil =>
    cases h
    exact .nil
  | cons entry rest ih =>
    obtain ⟨_, -, h⟩ := exists_of_bind_eq_ok h
    obtain ⟨_, -, h⟩ := exists_of_bind_eq_ok h
    obtain ⟨declaration, hdeclaration, h⟩ := exists_of_bind_eq_ok h
    obtain ⟨others, hothers, h⟩ := exists_of_bind_eq_ok h
    cases h
    exact .cons (sameDeclaration hdeclaration) (ih hothers)

theorem declarations_foldl_push (declarations : List Declaration) (unit : CompilationUnit) :
    (declarations.foldl CompilationUnit.push unit).declarations =
      unit.declarations ++ declarations := by
  induction declarations generalizing unit with
  | nil => exact (List.append_nil _).symm
  | cons declaration rest ih =>
    rw [List.foldl_cons, ih, CompilationUnit.push, List.append_assoc, List.singleton_append]

theorem same_of_toUnit {manifest : Manifest} {unit : CompilationUnit}
    (h : manifest.toUnit source = .ok unit) :
    List.Forall₂ (SameDeclaration manifest.source.package) manifest.declarations
      unit.declarations := by
  obtain ⟨_, -, h⟩ := exists_of_bind_eq_ok h
  obtain ⟨_, -, h⟩ := exists_of_bind_eq_ok h
  obtain ⟨_, -, h⟩ := exists_of_bind_eq_ok h
  obtain ⟨_, -, h⟩ := exists_of_bind_eq_ok h
  obtain ⟨declarations, hdeclarations, h⟩ := exists_of_bind_eq_ok h
  cases h
  rw [declarations_foldl_push]
  exact sameDeclarations hdeclarations

theorem forall_mem_propertyRules_iff (seen : List String) (entry : PropertyEntry) :
    (∀ rule ∈ propertyRules seen entry, rule.holds) ↔ entry.Valid ∧ entry.name ∉ seen := by
  simp only [propertyRules, nameRules, List.cons_append, List.nil_append, List.forall_mem_cons,
    List.not_mem_nil, false_implies, implies_true, and_true]
  constructor
  · rintro ⟨hkeyword, hidentifier, hfresh, htype⟩
    exact ⟨⟨⟨hkeyword, hidentifier⟩, htype⟩, hfresh⟩
  · rintro ⟨⟨⟨hkeyword, hidentifier⟩, htype⟩, hfresh⟩
    exact ⟨hkeyword, hidentifier, hfresh, htype⟩

theorem forall_mem_declarationRules_iff (seen : List String) (entry : DeclarationEntry) :
    (∀ rule ∈ declarationRules seen entry, rule.holds) ↔ entry.Valid ∧ entry.name ∉ seen := by
  simp only [declarationRules, nameRules, List.cons_append, List.nil_append, List.forall_mem_cons,
    forall_mem_inOrder_iff forall_mem_propertyRules_iff]
  constructor
  · rintro ⟨hkeyword, hidentifier, hfresh, hkind, hproperties, hdistinct, -⟩
    exact ⟨⟨⟨hkeyword, hidentifier⟩, hkind, hproperties, hdistinct⟩, hfresh⟩
  · rintro ⟨⟨⟨hkeyword, hidentifier⟩, hkind, hproperties, hdistinct⟩, hfresh⟩
    exact ⟨hkeyword, hidentifier, hfresh, hkind, hproperties, hdistinct,
      fun _ _ => List.not_mem_nil⟩

theorem forall_mem_importRules_iff (seen : List String) (name : String) :
    (∀ rule ∈ importRules seen name, rule.holds) ↔
      Name.IsDotted name ∧ Text.lastSegment name ∉ seen := by
  simp only [importRules, dottedRule, List.forall_mem_cons, List.not_mem_nil, false_implies,
    implies_true, and_true]

theorem forall_mem_rules_iff (manifest : Manifest) :
    (∀ rule ∈ manifest.rules, rule.holds) ↔ manifest.Valid := by
  simp only [rules, dottedRule, nameRules, List.cons_append, List.nil_append,
    List.forall_mem_cons, List.forall_mem_append,
    forall_mem_inOrder_iff forall_mem_importRules_iff,
    forall_mem_inOrder_iff forall_mem_declarationRules_iff]
  constructor
  · rintro ⟨hpackage, houtput, hkeyword, hidentifier, ⟨himports, hsegments, -⟩, hdeclarations,
      hnames, -⟩
    exact ⟨hpackage, houtput, ⟨hkeyword, hidentifier⟩, himports, hsegments, hdeclarations, hnames⟩
  · rintro ⟨hpackage, houtput, ⟨hkeyword, hidentifier⟩, himports, hsegments, hdeclarations, hnames⟩
    exact ⟨hpackage, houtput, hkeyword, hidentifier,
      ⟨himports, hsegments, fun _ _ => List.not_mem_nil⟩, hdeclarations, hnames,
      fun _ _ => List.not_mem_nil⟩

/-- A manifest gives a unit if and only if it is valid. The unit then says what the manifest says,
and otherwise the error is of the kind of the first rule that does not hold. -/
theorem toUnit_validates_and_keeps (manifest : Manifest) (source : String) :
    ((∃ unit, manifest.toUnit source = .ok unit) ↔ manifest.Valid) ∧
    (∀ unit, manifest.toUnit source = .ok unit →
      List.Forall₂ (SameDeclaration manifest.source.package) manifest.declarations
        unit.declarations) ∧
    ∀ e, manifest.toUnit source = .error e → ∃ before rule after,
      manifest.rules = before ++ rule :: after ∧ (∀ earlier ∈ before, earlier.holds) ∧
        ¬ rule.holds ∧ e.kind = rule.kind := by
  have henforced := toUnit_enforced source manifest
  refine ⟨?_, fun unit => same_of_toUnit, henforced.error⟩
  rw [henforced.exists_ok_iff, forall_mem_rules_iff]

end Manifest

end FunctionForge
