import FunctionForge.Proofs.Manifest.Order
import FunctionForge.Proofs.TypeExpr.Grammar

/-!
# Names that types can use

The checks of a manifest know identifiers of ASCII characters, the type grammar knows letters and
numerals of every script, and the table knows last segments. An identifier of the checks is one of
the grammar, so whatever a manifest declares can be written as a type, and so can what it imports,
apart from an import that is empty.
-/

namespace FunctionForge

open TypeExpr

/-! ### Identifiers of the checks and of the grammar -/

namespace Name

theorem isNumeral_eq_false_of_isAlpha {c : Char} (h : c.isAlpha) : Text.isNumeral c = false := by
  have hrange : Text.inRanges c.toNat [(0x41, 0x5a), (0x61, 0x7a)] := by
    have hbounds : 65 ≤ c.toNat ∧ c.toNat ≤ 90 ∨ 97 ≤ c.toNat ∧ c.toNat ≤ 122 := by
      delta Char.isAlpha Char.isUpper Char.isLower at h
      simpa [UInt32.le_iff_toNat_le] using h
    simp only [Text.inRanges, Bool.and_eq_true, Bool.or_eq_true, decide_eq_true_eq]
    omega
  exact Text.inRanges_eq_false_of_areApart (by decide +kernel) hrange

theorem IsIdentifier.isSegment {text : List Char} (h : IsIdentifier text) : IsSegment text := by
  obtain ⟨first, rest, rfl, hfirst, hrest⟩ := h
  refine ⟨?_, fun c hc => ?_⟩
  · rcases hfirst with halpha | rfl
    · exact .inr ⟨Text.isLetter_of_isAlpha halpha, by simp [isNumeral_eq_false_of_isAlpha halpha]⟩
    · exact .inl rfl
  · rcases hrest c hc with halphanum | rfl
    · rcases Bool.or_eq_true _ _ ▸ halphanum with halpha | hdigit
      · exact .inr (.inl (Text.isLetter_of_isAlpha halpha))
      · exact .inr (.inr (Text.isNumeral_of_isDigit hdigit))
    · exact .inl rfl

theorem IsDotted.isName {name : String} (h : IsDotted name) (hne : name ≠ "") :
    TypeExpr.IsName name.toList :=
  fun segment hmem => (h.isIdentifier hne segment hmem).isSegment

end Name

/-! ### Names as types -/

namespace Text

theorem lastSegment_mem_splitAt (name : String) :
    (lastSegment name).toList ∈ splitAt '.' name.toList := by
  rw [lastSegment, String.toList_ofList]
  exact List.getLast_mem _

theorem not_isDotted_lastSegment (name : String) : ¬isDotted (lastSegment name) := by
  rw [isDotted_iff]
  exact not_mem_of_mem_splitAt (lastSegment_mem_splitAt name)

end Text

namespace TypeExpr

theorem isName_of_isSegment {segment : List Char} (h : IsSegment segment) (hdot : '.' ∉ segment) :
    IsName segment := by
  rw [IsName, Text.splitAt_of_not_mem hdot]
  exact List.forall_mem_singleton.2 h

theorem isName_lastSegment {name : String} (h : IsName name.toList) :
    IsName (Text.lastSegment name).toList :=
  isName_of_isSegment (h _ (Text.lastSegment_mem_splitAt name))
    (Text.not_mem_of_mem_splitAt (Text.lastSegment_mem_splitAt name))

theorem isName_qualify {package name : String} (hpackage : package ≠ "" → IsName package.toList)
    (hname : IsName name.toList) : IsName (Text.qualify package name).toList := by
  rw [Text.qualify]
  split
  · exact hname
  · next hne =>
    have hjoined : (package ++ "." ++ name).toList = package.toList ++ '.' :: name.toList := by
      simp
    rw [IsName, hjoined, Text.splitAt_append_cons]
    exact List.forall_mem_append.2 ⟨hpackage hne, hname⟩

/-- A text that reads as the type of its name. -/
def IsTypeName (text : String) : Prop := parse text = .ok (.mk text false [])

theorem isTypeName_of_isName {name : String} (h : IsName name.toList) : IsTypeName name := by
  refine parse_eq_ok_iff_isLayout.2 ⟨name.toList, [], (List.append_nil _).symm, ?_, IsGap.nil⟩
  have htype := WritesType.type IsGap.nil h .nothing .plain
  simpa using htype

/-- No type is written by nothing. -/
theorem parse_empty_ne_ok (type : TypeRef) : parse "" ≠ .ok type := by
  have hnone : (parse "").toOption.isNone := by decide +kernel
  intro h
  rw [h] at hnone
  cases hnone

theorem isTypeName_iff {name : String} (h : Name.IsDotted name) :
    IsTypeName name ↔ name ≠ "" := by
  constructor
  · rintro hparse rfl
    exact parse_empty_ne_ok _ hparse
  · intro hne
    exact isTypeName_of_isName (h.isName hne)

end TypeExpr

namespace Manifest

variable {manifest : Manifest} {source : String} {unit : CompilationUnit}

/-- An import is found under its whole name and under its last segment, whatever else there is. -/
theorem resolver_import (h : manifest.toUnit source = .ok unit) {name : String}
    (hmem : name ∈ manifest.source.imports) :
    unit.resolver name = some name ∧ unit.resolver (Text.lastSegment name) = some name := by
  have hlookup : unit.table.imports.lookup (Text.lastSegment name) = some name :=
    (lookup_imports_of_toUnit h).2 ⟨hmem, rfl⟩
  have hlast : unit.resolver (Text.lastSegment name) = some name := by
    rw [CompilationUnit.resolver, SymbolTable.resolve?, if_neg (Text.not_isDotted_lastSegment name),
      hlookup, Option.some_or]
  refine ⟨?_, hlast⟩
  by_cases hdotted : Text.isDotted name
  · exact SymbolTable.resolve?_of_dotted hdotted ((isKnown_of_toUnit h name).2 (.inr (.inl hmem)))
  · rwa [Text.lastSegment_of_not_dotted hdotted] at hlast

theorem isTypeName_import (h : manifest.toUnit source = .ok unit) {name : String}
    (hmem : name ∈ manifest.source.imports) :
    (IsTypeName name ↔ name ≠ "") ∧ (IsTypeName (Text.lastSegment name) ↔ name ≠ "") := by
  have hdotted := (valid_of_toUnit h).imports name hmem
  refine ⟨isTypeName_iff hdotted, fun hparse => ?_, fun hne => ?_⟩
  · rintro rfl
    exact parse_empty_ne_ok _ hparse
  · exact isTypeName_of_isName (isName_lastSegment (hdotted.isName hne))

/-- Whatever an accepted manifest imports or declares resolves, under its qualified name and under
its simple name, unless an import takes the simple name of a declaration. The names of a declaration
are names of types, and so are an import and its last segment, unless the import is empty. -/
theorem names_of_accepted (h : manifest.toUnit source = .ok unit) :
    (∀ name ∈ manifest.source.imports,
      unit.resolver name = some name ∧ unit.resolver (Text.lastSegment name) = some name ∧
      (IsTypeName name ↔ name ≠ "") ∧ (IsTypeName (Text.lastSegment name) ↔ name ≠ "")) ∧
    ∀ declaration ∈ unit.declarations,
      IsTypeName declaration.name ∧
      ((∀ name ∈ manifest.source.imports, Text.lastSegment name ≠ declaration.name) →
        unit.resolver declaration.name = some declaration.qualifiedName) ∧
      (manifest.source.package ≠ "" → IsTypeName declaration.qualifiedName ∧
        unit.resolver declaration.qualifiedName = some declaration.qualifiedName) := by
  have hvalid := valid_of_toUnit h
  refine ⟨fun name hmem => ?_, fun declaration hmem => ?_⟩
  · exact ⟨(resolver_import h hmem).1, (resolver_import h hmem).2, isTypeName_import h hmem⟩
  have hknown : unit.table.isKnown declaration.qualifiedName :=
    (isKnown_of_toUnit h _).2 (.inl (List.mem_map_of_mem hmem))
  rw [declarations_of_toUnit h] at hmem
  obtain ⟨entry, hentry, rfl⟩ := List.mem_map.1 hmem
  have hidentifier := (hvalid.declarations entry hentry).name.2
  have hname : TypeExpr.IsName entry.name.toList :=
    isName_of_isSegment hidentifier.isSegment hidentifier.dot_not_mem
  refine ⟨isTypeName_of_isName hname, fun hfree => ?_, fun hpackage => ⟨?_, ?_⟩⟩
  · have hnone : manifest.source.imports.find?
        (fun name => Text.lastSegment name = entry.name) = none :=
      List.find?_eq_none.2 fun name hmem hsame => hfree name hmem (of_decide_eq_true hsame)
    have hresolves := resolver_name h hentry
    rw [hnone, Option.getD_none] at hresolves
    exact hresolves
  · exact isTypeName_of_isName (isName_qualify hvalid.package.isName hname)
  · exact SymbolTable.resolve?_of_dotted (Text.isDotted_qualify hpackage _) hknown

/-- A manifest with a dotted import and a plain one, and a declaration in a package. -/
theorem names_of_accepted_of_two_imports :
    let entry : DeclarationEntry := ⟨"First", none, [], []⟩
    let manifest : Manifest := ⟨⟨"app", ["lib.Extra", "Plain"]⟩, [], ⟨"", "Made"⟩, [entry]⟩
    ∃ unit, manifest.toUnit "" = .ok unit ∧
      IsTypeName "lib.Extra" ∧ unit.resolver "lib.Extra" = some "lib.Extra" ∧
      IsTypeName "Extra" ∧ unit.resolver "Extra" = some "lib.Extra" ∧
      IsTypeName "Plain" ∧ unit.resolver "Plain" = some "Plain" ∧
      IsTypeName "First" ∧ unit.resolver "First" = some "app.First" ∧
      IsTypeName "app.First" ∧ unit.resolver "app.First" = some "app.First" := by
  intro entry manifest
  have hextra : Text.lastSegment "lib.Extra" = "Extra" := by decide
  have hfree : ∀ name ∈ manifest.source.imports, Text.lastSegment name ≠ "First" := by decide
  obtain ⟨unit, hunit⟩ : ∃ unit, manifest.toUnit "" = .ok unit :=
    failure?_eq_none_iff.1 (by decide +kernel)
  obtain ⟨himports, hdeclarations⟩ := names_of_accepted hunit
  have hmem : entry.lowered "app" ∈ unit.declarations := by
    rw [declarations_of_toUnit hunit]
    exact List.mem_singleton_self _
  obtain ⟨hfirst, hsimple, hqualified⟩ := hdeclarations _ hmem
  obtain ⟨hwhole, hlast, hwholeType, hlastType⟩ := himports "lib.Extra" (.head _)
  obtain ⟨hplainWhole, -, hplainType, -⟩ := himports "Plain" (.tail _ (.head _))
  rw [hextra] at hlast hlastType
  obtain ⟨hqualifiedType, hqualifiedResolves⟩ := hqualified (by decide)
  exact ⟨unit, hunit, hwholeType.2 (by decide), hwhole, hlastType.2 (by decide), hlast,
    hplainType.2 (by decide), hplainWhole, hfirst, hsimple hfree, hqualifiedType,
    hqualifiedResolves⟩

/-- The empty text passes the check of imports, and is no type. -/
theorem empty_import_is_no_type :
    let manifest : Manifest := ⟨⟨"", [""]⟩, [], ⟨"", "Made"⟩, []⟩
    (∃ unit, manifest.toUnit "[source]\nimports = [\"\"]\n" = .ok unit) ∧
      "" ∈ manifest.source.imports ∧ (∀ type, parse "" ≠ .ok type) ∧
      ∀ type, parse (Text.lastSegment "") ≠ .ok type := by
  intro manifest
  have hlast : Text.lastSegment "" = "" := rfl
  rw [hlast]
  exact ⟨failure?_eq_none_iff.1 (by decide +kernel), List.mem_singleton_self "", parse_empty_ne_ok,
    parse_empty_ne_ok⟩

end Manifest

end FunctionForge
