import FunctionForge.Proofs.List
import FunctionForge.Proofs.TypeExpr.Name
import FunctionForge.Symbol.Table

/-!
# Names that resolve

Whatever was declared and imported, what a name resolves to is a known name that resolves to itself.
For dotted names that is what looking them up means. A result without a dot is the written name:
only the root package gives it, or an import to its own last segment.
-/

namespace FunctionForge

namespace Text

theorem isDotted_iff (name : String) : isDotted name ↔ '.' ∈ name.toList := by
  rw [isDotted, List.contains_iff_mem]

theorem lastSegment_of_not_dotted {name : String} (h : ¬isDotted name) :
    lastSegment name = name := by
  rw [isDotted_iff] at h
  simp only [lastSegment, splitAt_of_not_mem h, List.getLast_singleton, String.ofList_toList]

theorem isDotted_qualify {package : String} (h : package ≠ "") (name : String) :
    isDotted (qualify package name) := by
  rw [isDotted_iff, qualify, if_neg h]
  simp

end Text

namespace SymbolTable

/-- The tables that declarations and imports lead to. Of the package nothing is asked, since a name
in it only counts if it is known. -/
inductive Reached : SymbolTable → Prop
  | standard (package : String) : Reached (.standard package)
  | empty (package : String) : Reached (.empty package)
  | declare {table : SymbolTable} {name : String} (htable : Reached table)
      (hname : TypeExpr.IsName name.toList) : Reached (table.declare name)
  | addImport {table : SymbolTable} {name : String} (htable : Reached table)
      (hname : TypeExpr.IsName name.toList) : Reached (table.addImport name)

/-- Every import stands under its last segment, and is known. -/
structure Linked (table : SymbolTable) : Prop where
  imports : ∀ entry ∈ table.imports,
    entry.1 = Text.lastSegment entry.2 ∧ table.isKnown entry.2

/-- A linked table whose known names are names of the type grammar. -/
structure Consistent (table : SymbolTable) : Prop extends Linked table where
  known (name : String) : table.isKnown name → TypeExpr.IsName name.toList

theorem Linked.of_imports_eq_nil {table : SymbolTable} (h : table.imports = []) : table.Linked :=
  ⟨fun _ hentry => absurd (h ▸ hentry) List.not_mem_nil⟩

theorem Linked.declare {table : SymbolTable} (h : table.Linked) (name : String) :
    (table.declare name).Linked := by
  refine ⟨fun entry hentry => ?_⟩
  obtain ⟨hsimple, hknown⟩ := h.imports entry hentry
  exact ⟨hsimple, by rw [isKnown_declare, hknown, Bool.or_true]⟩

theorem Linked.addImport {table : SymbolTable} (h : table.Linked) (name : String) :
    (table.addImport name).Linked := by
  refine ⟨fun entry hentry => ?_⟩
  rcases List.mem_cons.1 hentry with rfl | hentry
  · exact ⟨rfl, by rw [isKnown_addImport, beq_self_eq_true, Bool.true_or]⟩
  · obtain ⟨hsimple, hknown⟩ := h.imports entry hentry
    exact ⟨hsimple, by rw [isKnown_addImport, hknown, Bool.or_true]⟩

theorem isName_of_mem_standardDeclarations :
    ∀ name ∈ Symbol.standardDeclarations, TypeExpr.IsName name.toList := by
  decide +kernel

theorem Reached.consistent {table : SymbolTable} (h : table.Reached) : table.Consistent := by
  induction h with
  | standard package =>
    refine ⟨.of_imports_eq_nil rfl, fun name hname => ?_⟩
    exact isName_of_mem_standardDeclarations name (List.contains_iff_mem.1 hname)
  | empty package => exact ⟨.of_imports_eq_nil rfl, fun _ hname => (nomatch hname)⟩
  | @declare table name _ hname ih =>
    refine ⟨ih.toLinked.declare name, fun other hother => ?_⟩
    rw [isKnown_declare, Bool.or_eq_true, beq_iff_eq] at hother
    rcases hother with rfl | hother
    · exact hname
    · exact ih.known other hother
  | @addImport table name _ hname ih =>
    refine ⟨ih.toLinked.addImport name, fun other hother => ?_⟩
    rw [isKnown_addImport, Bool.or_eq_true, beq_iff_eq] at hother
    rcases hother with rfl | hother
    · exact hname
    · exact ih.known other hother

theorem inPackage?_eq_some {table : SymbolTable} {package simple qualified : String}
    (h : table.inPackage? package simple = some qualified) :
    qualified = Text.qualify package simple ∧ table.isKnown qualified := by
  rw [inPackage?] at h
  split at h
  · next hknown =>
    cases h
    exact ⟨rfl, hknown⟩
  · cases h

/-- The ways in which a name resolves, each with what comes before it in the search. -/
theorem resolve?_cases {table : SymbolTable} {written qualified : String}
    (h : table.resolve? written = some qualified) :
    (Text.isDotted written ∧ table.isKnown written ∧ qualified = written) ∨
    (¬Text.isDotted written ∧ table.imports.lookup written = some qualified) ∨
    (¬Text.isDotted written ∧ ∃ package, qualified = Text.qualify package written ∧
      table.isKnown qualified ∧ (package = table.package ∨ package ∈ Symbol.defaultImports)) := by
  rw [resolve?] at h
  split at h
  · next hdotted =>
    split at h
    · next hknown =>
      cases h
      exact .inl ⟨hdotted, hknown, rfl⟩
    · cases h
  · next hdotted =>
    rw [Option.or_eq_some_iff, Option.or_eq_some_iff] at h
    rcases h with himport | ⟨-, hpackage | ⟨-, hdefault⟩⟩
    · exact .inr (.inl ⟨hdotted, himport⟩)
    · obtain ⟨hqualified, hknown⟩ := inPackage?_eq_some hpackage
      exact .inr (.inr ⟨hdotted, _, hqualified, hknown, .inl rfl⟩)
    · obtain ⟨package, hmem, hfound⟩ := List.exists_of_findSome?_eq_some hdefault
      obtain ⟨hqualified, hknown⟩ := inPackage?_eq_some hfound
      exact .inr (.inr ⟨hdotted, package, hqualified, hknown, .inr hmem⟩)

theorem resolve?_of_dotted {table : SymbolTable} {name : String} (hdotted : Text.isDotted name)
    (hknown : table.isKnown name) : table.resolve? name = some name := by
  rw [resolve?, if_pos hdotted, if_pos hknown]

namespace Linked

variable {table : SymbolTable} {written qualified : String}

theorem isKnown_of_resolve? (htable : table.Linked)
    (h : table.resolve? written = some qualified) : table.isKnown qualified := by
  obtain ⟨-, hknown, rfl⟩ | ⟨-, himport⟩ | ⟨-, _, -, hknown, -⟩ := resolve?_cases h
  · exact hknown
  · exact (htable.imports _ (mem_of_lookup himport)).2
  · exact hknown

theorem eq_written_of_not_dotted (htable : table.Linked)
    (h : table.resolve? written = some qualified) (hplain : ¬Text.isDotted qualified) :
    qualified = written := by
  obtain ⟨-, -, hsame⟩ | ⟨-, himport⟩ | ⟨-, package, hqualified, -, hpackage⟩ := resolve?_cases h
  · exact hsame
  · have hsimple : written = Text.lastSegment qualified :=
      (htable.imports _ (mem_of_lookup himport)).1
    rw [hsimple, Text.lastSegment_of_not_dotted hplain]
  · have hroot : package = "" := by
      rw [hqualified] at hplain
      exact Decidable.byContradiction fun hnamed => hplain (Text.isDotted_qualify hnamed written)
    rw [hqualified, Text.qualify, if_pos hroot]

/-- Resolving what a name resolves to gives it again. -/
theorem resolve?_resolved (htable : table.Linked)
    (h : table.resolve? written = some qualified) : table.resolve? qualified = some qualified := by
  by_cases hdotted : Text.isDotted qualified
  · exact resolve?_of_dotted hdotted (htable.isKnown_of_resolve? h)
  · rwa [← htable.eq_written_of_not_dotted h hdotted] at h

end Linked

theorem Consistent.isName_of_resolve? {table : SymbolTable} (htable : table.Consistent)
    {written qualified : String} (h : table.resolve? written = some qualified) :
    TypeExpr.IsName qualified.toList :=
  htable.known qualified (htable.isKnown_of_resolve? h)

end SymbolTable

end FunctionForge
