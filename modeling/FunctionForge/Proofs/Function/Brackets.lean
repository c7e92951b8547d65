import FunctionForge.Proofs.Function.Growth
import FunctionForge.Proofs.Pass.Reading
import FunctionForge.Proofs.Text.Brackets

/-!
# Functions stay closed

The brackets of a function are opened in one place and closed in another: those of an argument list
around its slots, the round one in the first line and below the parameters, the curly one there and
in the last line. They nest whatever is left out between them, so names that do not resolve leave
gaps and no open brackets.
-/

namespace FunctionForge

open Text

/-! ### Names -/

theorem not_bracket_of_isSegmentPart {c : Char} (h : TypeExpr.IsSegmentPart c) :
    c ∉ ['(', ')', '{', '}', '<', '>'] := by
  intro hmem
  simp only [List.mem_cons, List.not_mem_nil, or_false] at hmem
  obtain rfl | rfl | rfl | rfl | rfl | rfl := hmem <;> exact absurd h (by decide +kernel)

theorem hasNoBracket_of_isSegment {name : String} (h : TypeExpr.IsSegment name.toList) :
    HasNoBracket name :=
  fun _ hc => not_bracket_of_isSegmentPart (h.part_of_mem hc)

theorem hasNoBracket_of_isName {name : String} (h : TypeExpr.IsName name.toList) :
    HasNoBracket name := by
  intro c hc
  rcases h.part_or_dot_of_mem hc with hpart | rfl
  · exact not_bracket_of_isSegmentPart hpart
  · decide

/-! ### Types -/

namespace Rendering

/-- What a resolver finds for some names has no brackets. -/
def FindsNoBracket (resolver : Resolver) (names : List String) : Prop :=
  ∀ name ∈ names, ∀ qualified, resolver name = some qualified → HasNoBracket qualified

theorem carries_isNested : Carries IsNested where
  append hfirst hsecond := hfirst.append hsecond
  gap := isNested_of_hasNoBracket (by decide)
  star := isNested_of_hasNoBracket (by decide)
  separator := isNested_of_hasNoBracket (by decide)
  word projection := by cases projection <;> exact isNested_of_hasNoBracket (by decide)
  mark nullable := by cases nullable <;> exact isNested_of_hasNoBracket (by decide)
  clause h := by
    have hopening : Leaves [] "<" ['<'] := by decide
    have hclosing : Leaves ['<'] ">" [] := by decide
    exact isNested_iff.2 ((hopening.append (h.leaves _)).append hclosing)

end Rendering

/-! ### Functions -/

namespace FunctionSummary

/-- A summary with names that have no brackets and types in which brackets nest, that returns one of
its parameters if anything. -/
structure Nests (summary : FunctionSummary) : Prop where
  name : HasNoBracket summary.name
  parameters : ∀ parameter ∈ summary.parameters, HasNoBracket parameter.1
  types : ∀ parameter ∈ summary.parameters, ∀ type, parameter.2 = some type → IsNested type
  returned (name type : String) (h : summary.returned = some (name, type)) :
    (name, some type) ∈ summary.parameters

variable {summary : FunctionSummary}

theorem isNested_parameterLine {parameter : String × Option String}
    (hname : HasNoBracket parameter.1)
    (htype : ∀ type, parameter.2 = some type → IsNested type) :
    IsNested (parameterLine parameter) := by
  have hcomma : IsNested "," := isNested_of_hasNoBracket (by decide)
  have hcolon : IsNested ": " := isNested_of_hasNoBracket (by decide)
  have hname := isNested_of_hasNoBracket hname
  obtain ⟨name, type?⟩ := parameter
  cases type? with
  | none => exact isNested_indented (hname.append hcomma)
  | some type =>
    exact isNested_indented (((hname.append hcolon).append (htype type rfl)).append hcomma)

/-- A call with a text as its argument. -/
theorem isNested_print {before text : String} (hbefore : Leaves [] before ['('])
    (htext : HasNoBracket text) : IsNested (indented (before ++ text ++ "\")")) := by
  have hclosing : Leaves ['('] "\")" [] := by decide
  have htext := (isNested_of_hasNoBracket htext).leaves ['(']
  exact isNested_indented (isNested_iff.2 ((hbefore.append htext).append hclosing))

theorem Nests.leaves_bodyLine (h : summary.Nests) :
    Leaves ['('] (bodyLine summary.returned) ['{'] := by
  cases hreturned : summary.returned with
  | none => exact (by decide : Leaves ['('] ") \x7b" ['{'])
  | some returned =>
    have htype := h.types _ (h.returned _ _ hreturned) _ rfl
    have hclosing : Leaves ['('] "): " [] := by decide
    have hopening : Leaves [] " \x7b" ['{'] := by decide
    exact (hclosing.append (htype.leaves [])).append hopening

theorem Nests.isNested_returnLines (h : summary.Nests) :
    ∀ line ∈ returnLines summary.returned, IsNested line := by
  cases hreturned : summary.returned with
  | none => exact fun line hline => absurd hline List.not_mem_nil
  | some returned =>
    have hname := h.parameters _ (h.returned _ _ hreturned)
    have hreturn : IsNested "return " := isNested_of_hasNoBracket (by decide)
    exact List.forall_mem_singleton.2
      (isNested_indented (hreturn.append (isNested_of_hasNoBracket hname)))

/-- The round bracket is open along the parameters, and the curly one along the body. -/
theorem Nests.isNested_text (h : summary.Nests) : IsNested summary.text := by
  have hname : Leaves [] ("fun " ++ summary.name) [] :=
    ((isNested_of_hasNoBracket (by decide)).append (isNested_of_hasNoBracket h.name)).leaves []
  have hlast : Leaves ['{'] (joinLines ["\x7d"]) [] := by decide
  have hblank : Leaves [] "" [] := rfl
  rw [isNested_iff, text]
  refine hblank.joinLines_cons ?_
  by_cases hnil : summary.parameters = []
  · have hfirst : Leaves [] ("fun " ++ summary.name ++ "() \x7b") ['{'] :=
      hname.append (by decide)
    have hprint := isNested_print (by decide : Leaves [] "println(\"Hello from " ['(']) h.name
    rw [lines_of_nil hnil]
    exact hfirst.joinLines_cons ((hprint.leaves ['{']).joinLines_cons hlast)
  · have hfirst : Leaves [] ("fun " ++ summary.name ++ "(") ['('] := hname.append (by decide)
    have hparameters : IsNested (joinLines (summary.parameters.map parameterLine)) :=
      isNested_joinLines (List.forall_mem_map.2 fun parameter hmem =>
        isNested_parameterLine (h.parameters parameter hmem) (h.types parameter hmem))
    have hprints : IsNested (joinLines (summary.parameters.map printLine)) :=
      isNested_joinLines (List.forall_mem_map.2 fun parameter hmem =>
        isNested_print (by decide : Leaves [] "println(\"$" ['(']) (h.parameters parameter hmem))
    have hreturn := isNested_joinLines h.isNested_returnLines
    rw [lines_of_ne_nil hnil]
    refine hfirst.joinLines_cons ?_
    rw [joinLines_append]
    refine (hparameters.leaves ['(']).append (h.leaves_bodyLine.joinLines_cons ?_)
    rw [joinLines_append, joinLines_append]
    exact (hprints.leaves ['{']).append ((hreturn.leaves ['{']).append hlast)

theorem lines_eq_concat (summary : FunctionSummary) :
    ∃ before, summary.lines = before ++ ["\x7d"] := by
  by_cases hnil : summary.parameters = []
  · exact ⟨_, (lines_of_nil hnil).trans
      (List.append_assoc [_] [_] [_]).symm⟩
  · refine ⟨("fun " ++ summary.name ++ "(") :: (summary.parameters.map parameterLine ++
      bodyLine summary.returned :: (summary.parameters.map printLine ++
        returnLines summary.returned)), ?_⟩
    rw [lines_of_ne_nil hnil]
    simp only [List.cons_append, List.append_assoc]

end FunctionSummary

/-- A text in which brackets nest, that starts with a newline and ends with the line of a closing
bracket. -/
structure IsBlock (text : String) : Prop where
  nested : IsNested text
  blank : ∃ rest, text = "\n" ++ rest
  closing : ∃ before, text = before ++ "\n\x7d\n"

theorem IsBlock.append {first second : String} (hfirst : IsBlock first) (hsecond : IsBlock second) :
    IsBlock (first ++ second) := by
  obtain ⟨rest, hrest⟩ := hfirst.blank
  obtain ⟨before, hbefore⟩ := hsecond.closing
  refine ⟨hfirst.nested.append hsecond.nested, ⟨rest ++ second, ?_⟩, first ++ before, ?_⟩
  · rw [hrest, String.append_assoc]
  · rw [hbefore, String.append_assoc]

theorem IsBlock.join {texts : List String} (hne : texts ≠ []) (h : ∀ text ∈ texts, IsBlock text) :
    IsBlock (String.join texts) := by
  induction texts with
  | nil => exact absurd rfl hne
  | cons text rest ih =>
    obtain ⟨htext, hrest⟩ := List.forall_mem_cons.1 h
    rw [String.join_cons]
    by_cases hnil : rest = []
    · rw [hnil, String.join_nil, String.append_empty]
      exact htext
    · exact htext.append (ih hnil hrest)

theorem FunctionSummary.Nests.isBlock {summary : FunctionSummary} (h : summary.Nests) :
    IsBlock summary.text := by
  obtain ⟨before, hlines⟩ := summary.lines_eq_concat
  have hsplit : summary.text = joinLines ("" :: before) ++ joinLines ["\x7d"] := by
    rw [text, hlines, ← joinLines_append, List.cons_append]
  refine ⟨h.isNested_text, ⟨joinLines summary.lines, ?_⟩, ?_⟩
  · rw [text, ← List.singleton_append, joinLines_append]
    rfl
  · obtain ⟨front, hfront⟩ := exists_joinLines_cons "" before
    refine ⟨front, ?_⟩
    rw [hsplit, hfront, joinLines_singleton, String.append_assoc]
    rfl

namespace Declaration

variable {resolver : Resolver} {options : Options} {declaration : Declaration}

/-- The name of the function, those of the properties and those that the types resolve to have no
brackets. -/
structure FreeOfBrackets (resolver : Resolver) (declaration : Declaration) : Prop where
  function : ∀ name, declaration.functionName = .ok name → HasNoBracket name
  properties : ∀ property ∈ declaration.properties, HasNoBracket property.name
  types : Rendering.FindsNoBracket resolver declaration.names

theorem FreeOfBrackets.nests_summary (h : declaration.FreeOfBrackets resolver)
    {summary : FunctionSummary} (hsummary : declaration.summary? resolver options = some summary) :
    summary.Nests := by
  rw [summary?] at hsummary
  split at hsummary
  · next name _ hfunction =>
    cases hsummary
    refine ⟨h.function name hfunction, List.forall_mem_map.2 h.properties,
      List.forall_mem_map.2 fun property hmem type htype => ?_,
      fun name type => mem_said_of_returned?⟩
    refine Property.holds_renderedType Rendering.carries_isNested
      (fun written hwritten qualified hresolves => ?_) htype
    exact isNested_of_hasNoBracket
      (h.types written (List.mem_flatMap.2 ⟨property, hmem, hwritten⟩) qualified hresolves)
  · cases hsummary

end Declaration

/-- Identifiers and what they resolve to have no brackets. -/
theorem CompilationUnit.Named.freeOfBrackets {unit : CompilationUnit} (h : unit.Named)
    {declaration : Declaration} (hmem : declaration ∈ unit.annotatedWith functionAnnotation) :
    declaration.FreeOfBrackets unit.resolver where
  function name hname := hasNoBracket_of_isSegment (h.functions declaration hmem name hname)
  properties property hproperty :=
    hasNoBracket_of_isSegment (h.properties declaration hmem property hproperty)
  types _ _ qualified hresolves := hasNoBracket_of_isName (h.resolver _ qualified hresolves)

namespace Declaration

/-- The text of a function is closed whatever does not resolve, and so are any number of such texts
on end. -/
theorem texts_closed {texts : List String} (h : ∀ text ∈ texts,
    ∃ (resolver : Resolver) (options : Options) (declaration : Declaration),
      declaration.FreeOfBrackets resolver ∧
        (declaration.function resolver options).1 = .ok (some text)) :
    (∀ text ∈ texts, IsBlock text) ∧ IsNested (String.join texts) ∧
      (texts ≠ [] → IsBlock (String.join texts)) := by
  have hblock : ∀ text ∈ texts, IsBlock text := by
    intro text hmem
    obtain ⟨resolver, options, declaration, hfree, hfunction⟩ := h text hmem
    obtain ⟨summary, hsummary, rfl⟩ := summary?_of_text hfunction
    exact (hfree.nests_summary hsummary).isBlock
  exact ⟨hblock, .join fun text hmem => (hblock text hmem).nested, fun hne => .join hne hblock⟩

/-- Two functions, the first with a gap in an argument list and one in the place of a returned type.
-/
theorem texts_closed_of_gaps :
    let mark := Annotation.mk functionAnnotation [(nameArgument, "make")]
    let missing := TypeRef.mk "Missing" false []
    let inner := Property.mk "inner" (.mk "List" false [.projected .covariant missing]) []
    let whole := Property.mk "whole" missing [.marker returnsAnnotation]
    let gaps := Declaration.mk "Gaps" "" .interface [mark] [inner, whole]
    let plain := Declaration.mk "Plain" "" .interface [mark] []
    let resolver := (SymbolTable.standard "").resolve?
    ∃ first second, (gaps.function resolver .default).1 = .ok (some first) ∧
      (plain.function resolver .default).1 = .ok (some second) ∧
      IsBlock (String.join [first, second]) := by
  intro mark missing inner whole gaps plain resolver
  have htable := (SymbolTable.Reached.standard "").consistent
  have hfinds (names : List String) : Rendering.FindsNoBracket resolver names :=
    fun _ _ _ hresolves => hasNoBracket_of_isName (htable.isName_of_resolve? hresolves)
  have hgaps : gaps.FreeOfBrackets resolver := by
    refine ⟨fun name hname => ?_, by decide, hfinds _⟩
    cases hname
    decide
  have hplain : plain.FreeOfBrackets resolver := by
    refine ⟨fun name hname => ?_, by decide, hfinds _⟩
    cases hname
    decide
  obtain ⟨first, hfirst⟩ : ∃ text, (gaps.function resolver .default).1 = .ok (some text) :=
    ⟨_, rfl⟩
  obtain ⟨second, hsecond⟩ : ∃ text, (plain.function resolver .default).1 = .ok (some text) :=
    ⟨_, rfl⟩
  obtain ⟨-, -, hjoined⟩ := texts_closed (List.forall_mem_cons.2
    ⟨⟨resolver, .default, gaps, hgaps, hfirst⟩, List.forall_mem_singleton.2
      ⟨resolver, .default, plain, hplain, hsecond⟩⟩)
  exact ⟨first, second, hfirst, hsecond, hjoined (List.cons_ne_nil _ _)⟩

end Declaration

end FunctionForge
