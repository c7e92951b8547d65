import FunctionForge.Proofs.List
import FunctionForge.Proofs.Manifest.Unit
import FunctionForge.Proofs.Pass.Fold
import FunctionForge.Proofs.Symbol.Table

/-!
# The order of a manifest

All imports and declarations are known before the first name is resolved, and no two of them may
compete for one simple name. So the table of a unit is the same in every order, and with it the
function of each declaration: the order only tells how the functions follow each other.
-/

namespace FunctionForge

namespace SymbolTable

/-- A table is read through its package, the names it knows, and what simple names are imported. -/
theorem resolve?_congr {first second : SymbolTable} (hpackage : second.package = first.package)
    (hknown : ∀ name, second.isKnown name = first.isKnown name)
    (himports : ∀ name, second.imports.lookup name = first.imports.lookup name) :
    second.resolve? = first.resolve? := by
  funext written
  simp only [resolve?, inPackage?, hpackage, hknown, himports]

theorem foldl_addImport (names : List String) (table : SymbolTable) :
    names.foldl addImport table = ⟨table.package, names.reverse ++ table.known,
      (names.map fun name => (Text.lastSegment name, name)).reverse ++ table.imports⟩ := by
  induction names generalizing table with
  | nil => rfl
  | cons name rest ih =>
    rw [List.foldl_cons, ih, addImport, List.map_cons, List.reverse_cons, List.reverse_cons,
      List.append_assoc, List.append_assoc]
    rfl

end SymbolTable

theorem CompilationUnit.table_foldl_push (declarations : List Declaration)
    (unit : CompilationUnit) : (declarations.foldl push unit).table =
      { unit.table with
        known := (declarations.map Declaration.qualifiedName).reverse ++ unit.table.known } := by
  induction declarations generalizing unit with
  | nil => rfl
  | cons declaration rest ih =>
    rw [List.foldl_cons, ih, push, List.map_cons, List.reverse_cons, List.append_assoc]
    rfl

/-- The property that an entry states, none if its type is not one. -/
def PropertyEntry.lowered? (entry : PropertyEntry) : Option Property :=
  match TypeExpr.parse entry.type with
  | .ok type => some ⟨entry.name, type, entry.annotations.map AnnotationEntry.mark⟩
  | .error _ => none

/-- The declaration of a package that a valid entry states. -/
def DeclarationEntry.lowered (package : String) (entry : DeclarationEntry) : Declaration where
  name := entry.name
  package := package
  kind := (entry.kind.bind Kind.ofName?).getD .default
  annotations := entry.annotations.map AnnotationEntry.mark
  properties := entry.properties.filterMap PropertyEntry.lowered?

namespace Manifest

section Lowered

variable {package : String} {entry : DeclarationEntry} {declaration : Declaration}

theorem map_mark_of_same {entries : List AnnotationEntry} {annotations : List Annotation}
    (h : List.Forall₂ SameAnnotation entries annotations) :
    annotations = entries.map AnnotationEntry.mark := by
  induction h with
  | nil => rfl
  | cons hsame _ ih =>
    rw [List.map_cons, ← ih]
    cases hsame <;> rfl

theorem filterMap_lowered?_of_same {entries : List PropertyEntry} {properties : List Property}
    (h : List.Forall₂ SameProperty entries properties) :
    properties = entries.filterMap PropertyEntry.lowered? := by
  induction h with
  | nil => rfl
  | @cons entry property _ _ hsame _ ih =>
    have hlowered : entry.lowered? = some property := by
      rw [PropertyEntry.lowered?, hsame.type, ← hsame.name, ← map_mark_of_same hsame.annotations]
    rw [List.filterMap_cons_some hlowered, ← ih]

theorem SameDeclaration.eq_lowered (h : SameDeclaration package entry declaration) :
    declaration = entry.lowered package := by
  have hkind : declaration.kind = (entry.kind.bind Kind.ofName?).getD .default := by
    cases hentry : entry.kind with
    | none => exact h.absentKind hentry
    | some name => rw [Option.bind_some, ← h.kind name hentry, Kind.ofName?_name, Option.getD_some]
  rw [DeclarationEntry.lowered, ← h.name, ← hkind, ← map_mark_of_same h.annotations,
    ← filterMap_lowered?_of_same h.properties, ← h.package]

theorem map_lowered_of_same {entries : List DeclarationEntry} {declarations : List Declaration}
    (h : List.Forall₂ (SameDeclaration package) entries declarations) :
    declarations = entries.map (DeclarationEntry.lowered package) := by
  induction h with
  | nil => rfl
  | cons hsame _ ih => rw [List.map_cons, ← ih, ← hsame.eq_lowered]

end Lowered

/-- Two manifests that state the same in a different order. -/
structure Reordered (first second : Manifest) : Prop where
  package : second.source.package = first.source.package
  imports : second.source.imports.Perm first.source.imports
  output : second.output = first.output
  declarations : second.declarations.Perm first.declarations

section Unit

variable {manifest first second : Manifest} {source other : String} {unit unit' : CompilationUnit}

theorem Reordered.symm (h : first.Reordered second) : second.Reordered first :=
  ⟨h.package.symm, h.imports.symm, h.output.symm, h.declarations.symm⟩

theorem Valid.reordered (hvalid : first.Valid) (h : first.Reordered second) : second.Valid where
  package := h.package ▸ hvalid.package
  outputPackage := h.output ▸ hvalid.outputPackage
  outputFile := h.output ▸ hvalid.outputFile
  imports name hmem := hvalid.imports name (h.imports.mem_iff.1 hmem)
  distinctImports := (h.imports.map _).nodup_iff.2 hvalid.distinctImports
  declarations entry hmem := hvalid.declarations entry (h.declarations.mem_iff.1 hmem)
  distinctDeclarations := (h.declarations.map _).nodup_iff.2 hvalid.distinctDeclarations

theorem valid_of_toUnit (h : manifest.toUnit source = .ok unit) : manifest.Valid :=
  (forall_mem_rules_iff manifest).1 ((toUnit_enforced source manifest).ok unit h)

theorem declarations_of_toUnit (h : manifest.toUnit source = .ok unit) : unit.declarations =
    manifest.declarations.map (DeclarationEntry.lowered manifest.source.package) :=
  map_lowered_of_same (same_of_toUnit h)

theorem table_of_toUnit (h : manifest.toUnit source = .ok unit) :
    unit.table = ⟨manifest.source.package,
      (unit.declarations.map Declaration.qualifiedName).reverse ++
        (manifest.source.imports.reverse ++ Symbol.standardDeclarations),
      (manifest.source.imports.map fun name => (Text.lastSegment name, name)).reverse⟩ := by
  obtain ⟨_, -, h⟩ := exists_of_bind_eq_ok h
  obtain ⟨_, -, h⟩ := exists_of_bind_eq_ok h
  obtain ⟨_, -, h⟩ := exists_of_bind_eq_ok h
  obtain ⟨_, -, h⟩ := exists_of_bind_eq_ok h
  obtain ⟨declarations, -, h⟩ := exists_of_bind_eq_ok h
  cases h
  rw [CompilationUnit.table_foldl_push, declarations_foldl_push, CompilationUnit.ofTable, tableOf,
    SymbolTable.foldl_addImport, List.nil_append, SymbolTable.standard, List.append_nil]

theorem isKnown_of_toUnit (h : manifest.toUnit source = .ok unit) (name : String) :
    unit.table.isKnown name ↔ name ∈ unit.declarations.map Declaration.qualifiedName ∨
      name ∈ manifest.source.imports ∨ name ∈ Symbol.standardDeclarations := by
  rw [SymbolTable.isKnown, List.contains_iff_mem, table_of_toUnit h, List.mem_append,
    List.mem_reverse, List.mem_append, List.mem_reverse]

/-- No two imports have the same last segment, so it does not matter which one is found first. -/
theorem lookup_imports_of_toUnit (h : manifest.toUnit source = .ok unit)
    {written qualified : String} : unit.table.imports.lookup written = some qualified ↔
      qualified ∈ manifest.source.imports ∧ Text.lastSegment qualified = written := by
  have hdistinct := (valid_of_toUnit h).distinctImports
  rw [table_of_toUnit h, lookup_eq_some_iff_of_nodup, List.mem_reverse, List.mem_map]
  · constructor
    · rintro ⟨name, hmem, hsame⟩
      cases hsame
      exact ⟨hmem, rfl⟩
    · rintro ⟨hmem, rfl⟩
      exact ⟨qualified, hmem, rfl⟩
  · rwa [List.map_reverse, List.nodup_reverse, List.map_map]

theorem declarations_perm (h : first.Reordered second) (hunit : first.toUnit source = .ok unit)
    (hunit' : second.toUnit other = .ok unit') : unit'.declarations.Perm unit.declarations := by
  rw [declarations_of_toUnit hunit, declarations_of_toUnit hunit', h.package]
  exact h.declarations.map _

/-- Names resolve in the same way in every order. -/
theorem resolver_eq_of_reordered (h : first.Reordered second)
    (hunit : first.toUnit source = .ok unit) (hunit' : second.toUnit other = .ok unit') :
    unit'.resolver = unit.resolver := by
  refine SymbolTable.resolve?_congr ?_ (fun name => ?_) (fun name => Option.ext fun qualified => ?_)
  · rw [table_of_toUnit hunit, table_of_toUnit hunit']
    exact h.package
  · rw [Bool.eq_iff_iff, isKnown_of_toUnit hunit, isKnown_of_toUnit hunit', h.imports.mem_iff,
      ((declarations_perm h hunit hunit').map _).mem_iff]
  · rw [lookup_imports_of_toUnit hunit, lookup_imports_of_toUnit hunit', h.imports.mem_iff]

/-- The simple name of a declaration resolves wherever it stands: to an import that takes the name,
else to the declaration. -/
theorem resolver_name (h : manifest.toUnit source = .ok unit) {entry : DeclarationEntry}
    (hmem : entry ∈ manifest.declarations) : unit.resolver entry.name =
      some ((manifest.source.imports.find? fun name => Text.lastSegment name = entry.name).getD
        (Text.qualify manifest.source.package entry.name)) := by
  have hplain : ¬Text.isDotted entry.name := by
    rw [Text.isDotted_iff]
    exact ((valid_of_toUnit h).declarations entry hmem).name.2.dot_not_mem
  have hknown : unit.table.isKnown (Text.qualify manifest.source.package entry.name) := by
    refine (isKnown_of_toUnit h _).2 (.inl ?_)
    rw [declarations_of_toUnit h, List.map_map]
    exact List.mem_map.2 ⟨entry, hmem, rfl⟩
  have hpackage : unit.table.package = manifest.source.package := by rw [table_of_toUnit h]
  rw [CompilationUnit.resolver, SymbolTable.resolve?, if_neg hplain]
  cases hfind : manifest.source.imports.find? fun name => Text.lastSegment name = entry.name with
  | some name =>
    have hlookup : unit.table.imports.lookup entry.name = some name :=
      (lookup_imports_of_toUnit h).2
        ⟨List.mem_of_find?_eq_some hfind, of_decide_eq_true (List.find?_some hfind :)⟩
    rw [hlookup, Option.some_or, Option.getD_some]
  | none =>
    have hlookup : unit.table.imports.lookup entry.name = none :=
      Option.eq_none_iff_forall_not_mem.2 fun name hname =>
        List.find?_eq_none.1 hfind name ((lookup_imports_of_toUnit h).1 hname).1
          (decide_eq_true ((lookup_imports_of_toUnit h).1 hname).2)
    rw [hlookup, Option.none_or, hpackage, SymbolTable.inPackage?, if_pos hknown, Option.some_or,
      Option.getD_none]

end Unit

end Manifest

/-- Two outcomes that tell the same in a different order. -/
structure Outcome.Reordered (first second : Outcome) : Prop where
  file : second.file = first.file
  functions : second.functions = first.functions
  skipped : second.skipped.Perm first.skipped
  deferred : second.deferred.Perm first.deferred

namespace Pass

variable {unit unit' : CompilationUnit} {options : Options} {location : Location}

theorem deferred_perm {resolver : Resolver} {annotated annotated' : List Declaration}
    {skipped skipped' : List String} (hannotated : annotated'.Perm annotated)
    (hskipped : skipped'.Perm skipped) :
    (deferred resolver annotated' skipped').Perm (deferred resolver annotated skipped) := by
  have hcontains : skipped'.contains = skipped.contains := by
    funext name
    rw [Bool.eq_iff_iff, List.contains_iff_mem, List.contains_iff_mem, hskipped.mem_iff]
  rw [deferred, hcontains]
  exact ((hannotated.filter _).map _).filter _

/-- Passes over the same declarations in two orders, with names that resolve in the same way. -/
theorem run_memory_perm (hresolver : unit'.resolver = unit.resolver)
    (hperm : (unit'.annotatedWith functionAnnotation).Perm
      (unit.annotatedWith functionAnnotation)) (memory memory' : MemoryFiles) :
    let run := (run MemoryFiles.sink unit options location).run memory
    let run' := (Pass.run MemoryFiles.sink unit' options location).run memory'
    ((∃ outcome, run.1.1 = .ok outcome) ↔ ∃ outcome, run'.1.1 = .ok outcome) ∧
    ∀ outcome outcome', run.1.1 = .ok outcome → run'.1.1 = .ok outcome' →
      outcome.Reordered outcome' ∧
      run.1.2 = reports unit.resolver options (unit.annotatedWith functionAnnotation) ∧
      run'.1.2 = reports unit.resolver options (unit'.annotatedWith functionAnnotation) ∧
      ∀ path, outcome.file = some path →
        run.2.file? path = some (String.join
          (visited unit.resolver options (unit.annotatedWith functionAnnotation))) ∧
        run'.2.file? path = some (String.join
          (visited unit.resolver options (unit'.annotatedWith functionAnnotation))) := by
  intro run run'
  have hiff := exists_ok_run_memory_iff options location memory unit
  have hiff' := exists_ok_run_memory_iff options location memory' unit'
  simp only [hresolver, hperm.mem_iff] at hiff'
  refine ⟨hiff.trans hiff'.symm, fun outcome outcome' hrun hrun' => ?_⟩
  have hall := hiff.1 ⟨outcome, hrun⟩
  by_cases h : unit.annotatedWith functionAnnotation = []
  · have h' : unit'.annotatedWith functionAnnotation = [] := by
      rw [h] at hperm
      exact hperm.eq_nil
    have heq : run = ((.ok .nothing, []), memory) := by
      simp only [run, run_of_not_annotated _ options location h]
      rfl
    have heq' : run' = ((.ok .nothing, []), memory') := by
      simp only [run', run_of_not_annotated _ options location h']
      rfl
    rw [heq] at hrun
    rw [heq'] at hrun'
    cases hrun
    cases hrun'
    rw [heq, heq', h, h']
    exact ⟨⟨rfl, rfl, .nil, .nil⟩, rfl, rfl, nofun⟩
  · have h' : unit'.annotatedWith functionAnnotation ≠ [] := fun hnil => h (by
      rw [hnil] at hperm
      exact hperm.symm.eq_nil)
    have hall' : ∀ declaration ∈ unit'.annotatedWith functionAnnotation,
        declaration.fatal? unit'.resolver options = none := by
      simpa only [hresolver, hperm.mem_iff] using hall
    have heq : run = _ := run_memory_of_all options location memory h hall
    have heq' : run' = _ := run_memory_of_all options location memory' h' hall'
    have hskipped := (hperm.filter fun declaration =>
      declaration.kind ≠ .interface).map Declaration.qualifiedName
    rw [hresolver] at heq'
    rw [heq] at hrun
    rw [heq'] at hrun'
    cases hrun
    cases hrun'
    rw [heq, heq']
    refine ⟨⟨rfl, (hperm.filter _).length_eq, hskipped, deferred_perm hperm hskipped⟩, rfl, rfl,
      fun path hpath => ?_⟩
    cases hpath
    simp only [MemoryFiles.file?_commit, Path.sameAs_refl, if_true, and_self]

end Pass

namespace Manifest

/-- The order of imports and declarations does not change what is generated for a declaration. It
only tells in which order the functions stand in the file, and a declaration may mention one that
comes after it. -/
theorem order_is_free {first second : Manifest} (h : first.Reordered second)
    (source other : String) :
    ((∃ unit, first.toUnit source = .ok unit) ↔ ∃ unit, second.toUnit other = .ok unit) ∧
    ∀ unit unit', first.toUnit source = .ok unit → second.toUnit other = .ok unit' →
      unit.declarations = first.declarations.map (DeclarationEntry.lowered first.source.package) ∧
      unit'.declarations =
        second.declarations.map (DeclarationEntry.lowered first.source.package) ∧
      (∀ entry ∈ first.declarations, unit.resolver entry.name =
        some ((first.source.imports.find? fun name => Text.lastSegment name = entry.name).getD
          (Text.qualify first.source.package entry.name))) ∧
      ∀ options location memory memory',
        let run := (Pass.run MemoryFiles.sink unit options location).run memory
        let run' := (Pass.run MemoryFiles.sink unit' options location).run memory'
        (∀ declaration : Declaration, declaration.function unit'.resolver options =
          declaration.function unit.resolver options) ∧
        ((∃ outcome, run.1.1 = .ok outcome) ↔ ∃ outcome, run'.1.1 = .ok outcome) ∧
        ∀ outcome outcome', run.1.1 = .ok outcome → run'.1.1 = .ok outcome' →
          outcome.Reordered outcome' ∧
          run.1.2 = Pass.reports unit.resolver options
            (unit.annotatedWith functionAnnotation) ∧
          run'.1.2 = Pass.reports unit.resolver options
            (unit'.annotatedWith functionAnnotation) ∧
          ∀ path, outcome.file = some path →
            run.2.file? path = some (String.join
              (Pass.visited unit.resolver options (unit.annotatedWith functionAnnotation))) ∧
            run'.2.file? path = some (String.join
              (Pass.visited unit.resolver options (unit'.annotatedWith functionAnnotation))) := by
  refine ⟨?_, fun unit unit' hunit hunit' => ?_⟩
  · rw [(toUnit_enforced source first).exists_ok_iff, (toUnit_enforced other second).exists_ok_iff,
      forall_mem_rules_iff, forall_mem_rules_iff]
    exact ⟨fun hvalid => hvalid.reordered h, fun hvalid => hvalid.reordered h.symm⟩
  · have hresolver := resolver_eq_of_reordered h hunit hunit'
    refine ⟨declarations_of_toUnit hunit, h.package ▸ declarations_of_toUnit hunit',
      fun entry => resolver_name hunit, fun options location memory memory' =>
      ⟨fun declaration => by rw [hresolver], ?_⟩⟩
    exact Pass.run_memory_perm hresolver ((declarations_perm h hunit hunit').filter _) memory
      memory'

/-- Two interfaces, the first with a property of the second one's type, and two imports. -/
theorem order_is_free_of_two :
    let mark := AnnotationEntry.full functionAnnotation [(nameArgument, "make")]
    let one : DeclarationEntry := ⟨"First", none, [mark], [⟨"next", "Second", []⟩]⟩
    let two : DeclarationEntry := ⟨"Second", none, [mark], []⟩
    let first : Manifest := ⟨⟨"app", ["lib.Extra", "lib.Other"]⟩, [], ⟨"", "Made"⟩, [one, two]⟩
    let second : Manifest := ⟨⟨"app", ["lib.Other", "lib.Extra"]⟩, [], ⟨"", "Made"⟩, [two, one]⟩
    first.Reordered second ∧ ∃ unit unit' outcome,
      first.toUnit "" = .ok unit ∧ second.toUnit "" = .ok unit' ∧
      unit.resolver "Second" = some "app.Second" ∧
      ((Pass.run MemoryFiles.sink unit' .default .default).run .empty).1.1 = .ok outcome := by
  intro mark one two first second
  have h : first.Reordered second := ⟨rfl, .swap _ _ _, rfl, .swap _ _ _⟩
  have hpass : (first.toUnit "").toOption.any fun unit => (failure?
      ((Pass.run MemoryFiles.sink unit .default .default).run .empty).1.1).isNone := by
    decide +kernel
  obtain ⟨hiff, hunits⟩ := order_is_free h "" ""
  cases hunit : first.toUnit "" with
  | error e =>
    rw [hunit] at hpass
    cases hpass
  | ok unit =>
    rw [hunit] at hpass
    obtain ⟨unit', hunit'⟩ := hiff.1 ⟨unit, hunit⟩
    obtain ⟨-, -, hnames, hpasses⟩ := hunits unit unit' hunit hunit'
    obtain ⟨-, hsucceeds, -⟩ := hpasses .default .default .empty .empty
    obtain ⟨outcome, houtcome⟩ :=
      hsucceeds.1 (failure?_eq_none_iff.1 (Option.isNone_iff_eq_none.1 hpass))
    exact ⟨h, unit, unit', outcome, rfl, hunit', hnames two (.tail _ (.head _)), houtcome⟩

end Manifest

end FunctionForge
