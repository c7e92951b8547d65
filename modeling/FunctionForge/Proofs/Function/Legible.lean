import FunctionForge.Proofs.Function.Summary
import FunctionForge.Proofs.List
import FunctionForge.Proofs.Rendering.Line

/-!
# What can be read off a function

The names in a function are identifiers, so the marks around them show where they end, and its types
stand on one line. So the lines of a function can be told apart, and from them what it says.
-/

namespace FunctionForge

open Text TypeExpr

namespace FunctionSummary

/-- A summary with identifiers for names and types on one line, that returns one of its parameters
if anything. -/
structure Legible (summary : FunctionSummary) : Prop where
  name : IsSegment summary.name.toList
  parameters : ∀ parameter ∈ summary.parameters, IsSegment parameter.1.toList
  types : ∀ parameter ∈ summary.parameters, ∀ type, parameter.2 = some type → OneLine type
  returned (name type : String) (h : summary.returned = some (name, type)) :
    (name, some type) ∈ summary.parameters

section Lines

/-- What follows the name of a parameter. -/
def typeClause : Option String → String
  | some type => ": " ++ type ++ ","
  | none => ","

theorem parameterLine_eq (parameter : String × Option String) :
    parameterLine parameter = indented (parameter.1 ++ typeClause parameter.2) := by
  obtain ⟨name, type?⟩ := parameter
  cases type? <;> simp only [parameterLine, typeClause, String.append_assoc]

theorem exists_toList_typeClause (type? : Option String) :
    ∃ c rest, (typeClause type?).toList = c :: rest ∧ ¬IsSegmentPart c := by
  have hcolon : ¬IsSegmentPart ':' := by decide +kernel
  have hcomma : ¬IsSegmentPart ',' := by decide +kernel
  cases type? with
  | none => exact ⟨',', [], rfl, hcomma⟩
  | some type =>
    refine ⟨':', ' ' :: (type ++ ",").toList, ?_, hcolon⟩
    rw [typeClause, String.append_assoc, String.toList_append]
    rfl

theorem typeClause_inj {type? other? : Option String} (h : typeClause type? = typeClause other?) :
    type? = other? := by
  cases type? with
  | none =>
    cases other? with
    | none => rfl
    | some other =>
      rw [typeClause, typeClause, String.append_assoc, ← String.toList_inj,
        String.toList_append] at h
      cases h
  | some type =>
    cases other? with
    | none =>
      rw [typeClause, typeClause, String.append_assoc, ← String.toList_inj,
        String.toList_append] at h
      cases h
    | some other =>
      rw [typeClause, typeClause, String.append_left_inj, String.append_right_inj] at h
      rw [h]

theorem parameterLine_inj (parameter other : String × Option String)
    (hname : IsSegment parameter.1.toList) (hother : IsSegment other.1.toList)
    (h : parameterLine parameter = parameterLine other) : parameter = other := by
  rw [parameterLine_eq, parameterLine_eq, indented, indented, String.append_right_inj,
    ← String.toList_inj, String.toList_append, String.toList_append] at h
  obtain ⟨c, rest, hclause, hc⟩ := exists_toList_typeClause parameter.2
  obtain ⟨d, others, hclause', hd⟩ := exists_toList_typeClause other.2
  rw [hclause, hclause'] at h
  obtain ⟨hsame, hcd, hrest⟩ :=
    append_cons_inj (fun _ => hname.part_of_mem) (fun _ => hother.part_of_mem) hc hd h
  refine Prod.ext (String.toList_inj.1 hsame) (typeClause_inj (String.toList_inj.1 ?_))
  rw [hclause, hclause', hcd, hrest]

theorem bodyLine_inj {returned other : Option (String × String)}
    (h : bodyLine returned = bodyLine other) : returned.map Prod.snd = other.map Prod.snd := by
  cases returned with
  | none =>
    cases other with
    | none => rfl
    | some other =>
      rw [bodyLine, bodyLine, String.append_assoc, ← String.toList_inj, String.toList_append] at h
      cases h
  | some returned =>
    cases other with
    | none =>
      rw [bodyLine, bodyLine, String.append_assoc, ← String.toList_inj, String.toList_append] at h
      cases h
    | some other =>
      rw [bodyLine, bodyLine, String.append_left_inj, String.append_right_inj] at h
      exact congrArg some h

theorem returnLines_inj {returned other : Option (String × String)}
    (h : returnLines returned = returnLines other) :
    returned.map Prod.fst = other.map Prod.fst := by
  cases returned with
  | none =>
    cases other with
    | none => rfl
    | some other => cases h
  | some returned =>
    cases other with
    | none => cases h
    | some other =>
      have hline := (List.cons.inj h).1
      rw [indented, indented, String.append_right_inj, String.append_right_inj] at hline
      exact congrArg some hline

theorem returned_ext {returned other : Option (String × String)}
    (hname : returned.map Prod.fst = other.map Prod.fst)
    (htype : returned.map Prod.snd = other.map Prod.snd) : returned = other := by
  cases returned with
  | none =>
    cases other with
    | none => rfl
    | some other => cases hname
  | some returned =>
    cases other with
    | none => cases hname
    | some other => exact congrArg some (Prod.ext (Option.some.inj hname) (Option.some.inj htype))

def IsIndented (line : String) : Prop := line.toList.head? = some ' '

theorem isIndented_parameterLine (parameter : String × Option String) :
    IsIndented (parameterLine parameter) := by
  rw [parameterLine_eq, IsIndented, indented, String.toList_append]
  rfl

theorem not_isIndented_bodyLine (returned : Option (String × String)) :
    ¬IsIndented (bodyLine returned) := by
  cases returned with
  | none => exact (by decide : (some ')' : Option Char) ≠ some ' ')
  | some returned =>
    rw [IsIndented, bodyLine, String.append_assoc, String.toList_append]
    exact (by decide : (some ')' : Option Char) ≠ some ' ')

end Lines

variable {summary other : FunctionSummary}

theorem Legible.returned_eq_none (h : summary.Legible) (hnone : summary.parameters = []) :
    summary.returned = none := by
  cases hreturned : summary.returned with
  | none => rfl
  | some returned =>
    have hmem := h.returned _ _ hreturned
    rw [hnone] at hmem
    cases hmem

theorem lines_of_nil (h : summary.parameters = []) : summary.lines =
    ["fun " ++ summary.name ++ "() \x7b",
      indented ("println(\"Hello from " ++ summary.name ++ "\")"), "\x7d"] :=
  if_pos h

theorem lines_of_ne_nil (h : summary.parameters ≠ []) : summary.lines =
    ("fun " ++ summary.name ++ "(") :: (summary.parameters.map parameterLine ++
      bodyLine summary.returned :: (summary.parameters.map printLine ++
        (returnLines summary.returned ++ ["\x7d"]))) :=
  if_neg h

theorem plainLine_ne (name other : String) :
    "fun " ++ name ++ "() \x7b" ≠ "fun " ++ other ++ "(" := by
  intro h
  have hlast := congrArg (fun line => line.toList.getLast?) h
  simp only [String.toList_append, List.getLast?_append] at hlast
  exact absurd hlast (by simp)

/-- The summary is read from the top: the first line tells whether there are parameters, and these
go on as long as lines are indented. -/
theorem lines_inj (hsummary : summary.Legible) (hother : other.Legible)
    (h : summary.lines = other.lines) : summary = other := by
  by_cases hnil : summary.parameters = []
  · by_cases hnil' : other.parameters = []
    · rw [lines_of_nil hnil, lines_of_nil hnil'] at h
      have hname := (List.cons.inj h).1
      rw [String.append_left_inj, String.append_right_inj] at hname
      have hreturned := hsummary.returned_eq_none hnil
      have hreturned' := hother.returned_eq_none hnil'
      exact FunctionSummary.ext hname (hnil.trans hnil'.symm) (hreturned.trans hreturned'.symm)
    · rw [lines_of_nil hnil, lines_of_ne_nil hnil'] at h
      exact absurd (List.cons.inj h).1 (plainLine_ne _ _)
  · by_cases hnil' : other.parameters = []
    · rw [lines_of_ne_nil hnil, lines_of_nil hnil'] at h
      exact absurd (List.cons.inj h).1.symm (plainLine_ne _ _)
    · rw [lines_of_ne_nil hnil, lines_of_ne_nil hnil'] at h
      obtain ⟨hname, hbelow⟩ := List.cons.inj h
      rw [String.append_left_inj, String.append_right_inj] at hname
      obtain ⟨hparameters, hbody, hrest⟩ := append_cons_inj
        (List.forall_mem_map.2 fun parameter _ => isIndented_parameterLine parameter)
        (List.forall_mem_map.2 fun parameter _ => isIndented_parameterLine parameter)
        (not_isIndented_bodyLine _) (not_isIndented_bodyLine _) hbelow
      have hsame :=
        map_inj_on parameterLine_inj hsummary.parameters hother.parameters hparameters
      rw [hsame, List.append_cancel_left_eq, List.append_cancel_right_eq] at hrest
      exact FunctionSummary.ext hname hsame
        (returned_ext (returnLines_inj hrest) (bodyLine_inj hbody))

theorem isPrinted_parameterLine {parameter : String × Option String}
    (hname : IsSegment parameter.1.toList)
    (htype : ∀ type, parameter.2 = some type → OneLine type) :
    IsPrinted (parameterLine parameter) := by
  have hclause : OneLine (typeClause parameter.2) := by
    cases htype? : parameter.2 with
    | none => decide
    | some type =>
      exact oneLine_append_iff.2 ⟨oneLine_append_iff.2 ⟨by decide, htype type htype?⟩, by decide⟩
  rw [parameterLine_eq]
  exact isPrinted_indented (oneLine_append_iff.2 ⟨oneLine_of_isSegment hname, hclause⟩)

theorem Legible.isPrinted_bodyLine (h : summary.Legible) :
    IsPrinted (bodyLine summary.returned) := by
  cases hreturned : summary.returned with
  | none => decide
  | some returned =>
    have htype := h.types _ (h.returned _ _ hreturned) _ rfl
    exact isPrinted_append (isPrinted_append (by decide) htype) (by decide)

theorem Legible.isPrinted_returnLines (h : summary.Legible) :
    ∀ line ∈ returnLines summary.returned, IsPrinted line := by
  cases hreturned : summary.returned with
  | none => exact fun line hline => absurd hline List.not_mem_nil
  | some returned =>
    have hname := h.parameters _ (h.returned _ _ hreturned)
    exact List.forall_mem_singleton.2 (isPrinted_indented
      (oneLine_append_iff.2 ⟨by decide, oneLine_of_isSegment hname⟩))

/-- Below its first line a function has no blank one. -/
theorem Legible.isPrinted (h : summary.Legible) : ∀ line ∈ summary.lines, IsPrinted line := by
  have hname := oneLine_of_isSegment h.name
  have hclosing : IsPrinted "\x7d" := by decide
  by_cases hnil : summary.parameters = []
  · rw [lines_of_nil hnil]
    refine List.forall_mem_cons.2 ⟨?_, List.forall_mem_cons.2 ⟨isPrinted_indented ?_,
      List.forall_mem_singleton.2 hclosing⟩⟩
    · exact isPrinted_append (isPrinted_append (by decide) hname) (by decide)
    · exact oneLine_append_iff.2 ⟨oneLine_append_iff.2 ⟨by decide, hname⟩, by decide⟩
  · rw [lines_of_ne_nil hnil]
    refine List.forall_mem_cons.2 ⟨?_, List.forall_mem_append.2 ⟨List.forall_mem_map.2 ?_,
      List.forall_mem_cons.2 ⟨h.isPrinted_bodyLine, List.forall_mem_append.2
        ⟨List.forall_mem_map.2 ?_, List.forall_mem_append.2
          ⟨h.isPrinted_returnLines, List.forall_mem_singleton.2 hclosing⟩⟩⟩⟩⟩
    · exact isPrinted_append (isPrinted_append (by decide) hname) (by decide)
    · exact fun parameter hmem =>
        isPrinted_parameterLine (h.parameters parameter hmem) (h.types parameter hmem)
    · exact fun parameter hmem => isPrinted_indented (oneLine_append_iff.2 ⟨oneLine_append_iff.2
        ⟨by decide, oneLine_of_isSegment (h.parameters parameter hmem)⟩, by decide⟩)

/-- What a function says can be read off its text. -/
theorem text_inj (summary other : FunctionSummary) (hsummary : summary.Legible)
    (hother : other.Legible) (h : summary.text = other.text) : summary = other := by
  have hplain {summary : FunctionSummary} (h : summary.Legible) :
      ∀ line ∈ "" :: summary.lines, OneLine line :=
    List.forall_mem_cons.2 ⟨by decide, fun line hline => (h.isPrinted line hline).2⟩
  exact lines_inj hsummary hother
    (List.cons.inj (joinLines_inj (hplain hsummary) (hplain hother) h)).2

theorem paragraphs_join_text {summaries : List FunctionSummary}
    (h : ∀ summary ∈ summaries, summary.Legible) :
    paragraphs (String.join (summaries.map text)) = summaries.map text := by
  have hjoin :=
    paragraphs_join (List.forall_mem_map.2 fun summary hmem => (h summary hmem).isPrinted)
  rwa [List.map_map] at hjoin

end FunctionSummary

end FunctionForge
