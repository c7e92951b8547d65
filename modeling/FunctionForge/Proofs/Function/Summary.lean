import FunctionForge.Proofs.Pass.Visits
import FunctionForge.Proofs.Text.Lines

/-!
# What a function says

A function says its name, its parameters with their types, and what it returns. Signature and body
are collected apart from each other; put together they are the lines of this summary.
-/

namespace FunctionForge

/-- What a generated function says. A parameter has no type if that did not resolve, and what is
returned is a parameter with its type, none if there is no return statement. -/
@[ext] structure FunctionSummary where
  name : String
  parameters : List (String × Option String)
  returned : Option (String × String)
  deriving DecidableEq, Repr

namespace FunctionSummary

def parameterLine : String × Option String → String
  | (name, some type) => Text.indented (name ++ ": " ++ type ++ ",")
  | (name, none) => Text.indented (name ++ ",")

def printLine (parameter : String × Option String) : String :=
  Text.indented ("println(\"$" ++ parameter.1 ++ "\")")

/-- The line between the parameters and the body. -/
def bodyLine : Option (String × String) → String
  | some (_, type) => "): " ++ type ++ " \x7b"
  | none => ") \x7b"

def returnLines : Option (String × String) → List String
  | some (name, _) => [Text.indented ("return " ++ name)]
  | none => []

/-- The lines of a function below the first one, which is blank. -/
def lines (summary : FunctionSummary) : List String :=
  if summary.parameters = [] then
    ["fun " ++ summary.name ++ "() \x7b",
      Text.indented ("println(\"Hello from " ++ summary.name ++ "\")"), "\x7d"]
  else
    ("fun " ++ summary.name ++ "(") :: (summary.parameters.map parameterLine ++
      bodyLine summary.returned :: (summary.parameters.map printLine ++
        (returnLines summary.returned ++ ["\x7d"])))

def text (summary : FunctionSummary) : String := Text.joinLines ("" :: summary.lines)

end FunctionSummary

namespace Property

variable (resolver : Resolver) (options : Options) (owner : String)

/-- What is said about a property as a parameter. -/
def said (property : Property) : String × Option String :=
  (property.name, (property.renderedType resolver options owner).1)

theorem fragments_eq (property : Property) : (property.fragments resolver options owner).1 =
    ⟨Text.joinLines [FunctionSummary.parameterLine (property.said resolver options owner)],
      Text.joinLines [FunctionSummary.printLine (property.said resolver options owner)],
      (property.said resolver options owner).2⟩ := by
  have hline (s : String) : (Text.Indented.standard.deeper.line s).text =
      Text.joinLines [Text.indented s] :=
    congrArg Text.Indented.text (Text.Indented.line_ofLines_one [] s)
  simp only [fragments, hline, said]
  cases (property.renderedType resolver options owner).1 <;> rfl

end Property

namespace Parts

variable (resolver : Resolver) (options : Options) (owner : String)

theorem addAll_cons (property : Property) (rest : List Property) (parts : Parts) :
    let next := addAll resolver options owner rest
      (parts.add property (property.fragments resolver options owner).1)
    addAll resolver options owner (property :: rest) parts =
      (next.1, (property.renderedType resolver options owner).2 ++ next.2) := rfl

theorem markers_addAll (properties : List Property) (parts : Parts) :
    (addAll resolver options owner properties parts).1.markers =
      parts.markers + (properties.flatMap Property.annotations).countP
        fun mark => mark.name = returnsAnnotation := by
  induction properties generalizing parts with
  | nil => rfl
  | cons property rest ih =>
    rw [addAll_cons, ih, List.flatMap_cons, List.countP_append, ← Nat.add_assoc]
    rfl

theorem returned_addAll (properties : List Property) (parts : Parts) :
    (addAll resolver options owner properties parts).1.returned = parts.returned.or
      ((properties.find? fun property => property.isAnnotated returnsAnnotation).map
        fun property => (property, (property.said resolver options owner).2)) := by
  induction properties generalizing parts with
  | nil => exact (Option.or_none).symm
  | cons property rest ih =>
    rw [addAll_cons, ih, add, Property.fragments_eq, Option.or_assoc]
    cases hmarked : property.isAnnotated returnsAnnotation with
    | true => simp [hmarked]
    | false => simp [hmarked]

/-- The lines of signature and body grow by one for each property. -/
theorem lines_addAll (properties : List Property) (parts : Parts) {signature body : List String}
    (hfunction : parts.function = .ofLines 0 signature) (hbody : parts.body = .ofLines 1 body) :
    (addAll resolver options owner properties parts).1.function =
        .ofLines 0 (signature ++ (properties.map (Property.said resolver options owner)).map
          FunctionSummary.parameterLine) ∧
      (addAll resolver options owner properties parts).1.body =
        .ofLines 1 (body ++ (properties.map (Property.said resolver options owner)).map
          FunctionSummary.printLine) := by
  induction properties generalizing parts signature body with
  | nil =>
    simp only [List.map_nil, List.append_nil]
    exact ⟨hfunction, hbody⟩
  | cons property rest ih =>
    rw [addAll_cons, Property.fragments_eq]
    simp only [List.map_cons]
    rw [List.append_cons, List.append_cons body]
    apply ih
    · rw [add, hfunction, Text.Indented.raw_ofLines]
    · rw [add, hbody, Text.Indented.raw_ofLines]

end Parts

namespace Declaration

section Summary

variable (resolver : Resolver) (options : Options) (declaration : Declaration)

/-- The first property that is marked as returned, if its type resolves. -/
def returned? : Option (String × String) :=
  (declaration.properties.find? fun property => property.isAnnotated returnsAnnotation).bind
    fun property => (property.said resolver options declaration.qualifiedName).2.map
      fun type => (property.name, type)

/-- What the function of a declaration says if it has this name. -/
def summaryNamed (name : String) : FunctionSummary :=
  ⟨name, declaration.properties.map (Property.said resolver options declaration.qualifiedName),
    declaration.returned? resolver options⟩

/-- What the function of a declaration says, none if the declaration has no function. -/
def summary? : Option FunctionSummary :=
  match declaration.kind, declaration.functionName with
  | .interface, .ok name => some (declaration.summaryNamed resolver options name)
  | _, _ => none

end Summary

variable {resolver : Resolver} {options : Options} {declaration : Declaration}

open Text.Indented in
theorem plainFunction_eq (name : String) (h : declaration.properties = []) :
    plainFunction name = (declaration.summaryNamed resolver options name).text := by
  have hparameters : (declaration.summaryNamed resolver options name).parameters = [] := by
    rw [summaryNamed, h, List.map_nil]
  rw [FunctionSummary.text, FunctionSummary.lines, if_pos hparameters]
  have hstart : Text.Indented.standard = ofLines 0 [] := rfl
  simp only [plainFunction, hstart, blank_ofLines, line_ofLines_zero, deeper_ofLines, Nat.zero_add,
    line_ofLines_one, shallower_ofLines, Nat.sub_self, text_ofLines, List.nil_append,
    List.cons_append]
  rfl

open Text.Indented in
theorem assemble_eq (name : String) (h : declaration.properties ≠ []) :
    (declaration.assemble (Parts.addAll resolver options declaration.qualifiedName
      declaration.properties ⟨Text.Indented.standard.blank.line ("fun " ++ name ++ "("),
        Text.Indented.standard.deeper, 0, none⟩).1).1 =
      (declaration.summaryNamed resolver options name).text := by
  have hparameters : (declaration.summaryNamed resolver options name).parameters ≠ [] := by
    rwa [summaryNamed, ne_eq, List.map_eq_nil_iff]
  have hstart : Text.Indented.standard = ofLines 0 [] := rfl
  rw [FunctionSummary.text, FunctionSummary.lines, if_neg hparameters, summaryNamed, returned?,
    hstart, blank_ofLines, line_ofLines_zero, deeper_ofLines]
  obtain ⟨hfunction, hbody⟩ := Parts.lines_addAll resolver options declaration.qualifiedName
    declaration.properties
    ⟨.ofLines 0 ([] ++ [""] ++ ["fun " ++ name ++ "("]), .ofLines 1 [], 0, none⟩ rfl rfl
  rw [assemble, Parts.returned_addAll, Option.none_or, hfunction, hbody]
  cases declaration.properties.find? fun property => property.isAnnotated returnsAnnotation with
  | none =>
    simp only [Option.map_none, Option.bind_none, FunctionSummary.bodyLine,
      FunctionSummary.returnLines, text_ofLines, line_ofLines_zero, raw_ofLines, List.append_assoc,
      List.cons_append, List.nil_append]
  | some property =>
    rw [Option.map_some, Option.bind_some]
    cases (property.said resolver options declaration.qualifiedName).2 with
    | none =>
      simp only [Option.map_none, FunctionSummary.bodyLine, FunctionSummary.returnLines,
        text_ofLines, line_ofLines_zero, raw_ofLines, List.append_assoc, List.cons_append,
        List.nil_append]
    | some type =>
      simp only [Option.map_some, FunctionSummary.bodyLine, FunctionSummary.returnLines,
        text_ofLines, line_ofLines_zero, line_ofLines_one, raw_ofLines, List.append_assoc,
        List.cons_append, List.nil_append]

/-- The text of a function is the text of what it says. -/
theorem summary?_of_text {text : String}
    (h : (declaration.function resolver options).1 = .ok (some text)) :
    ∃ summary, declaration.summary? resolver options = some summary ∧ summary.text = text := by
  have hkind := interface_of_text h
  rw [function, if_neg (Decidable.not_not.2 hkind)] at h
  cases hname : declaration.functionName with
  | error e =>
    rw [hname] at h
    cases h
  | ok name =>
    refine ⟨declaration.summaryNamed resolver options name, by rw [summary?, hkind, hname], ?_⟩
    simp only [hname] at h
    split at h
    · next hempty =>
      cases h
      exact (plainFunction_eq name (List.isEmpty_iff.1 hempty)).symm
    · next hsome =>
      split at h
      · cases h
      · cases h
        exact (assemble_eq name fun hnil => hsome (List.isEmpty_iff.2 hnil)).symm

theorem summary?_of_skipped (h : (declaration.function resolver options).1 = .ok none) :
    declaration.summary? resolver options = none := by
  have hkind := (declaration.function_eq_ok_none_iff resolver options).1 h
  rw [summary?]
  split
  · next hinterface _ => exact absurd hinterface hkind
  · rfl

/-- Texts and summaries of declarations whose visits succeed. -/
theorem text?_eq_map_summary? (h : declaration.fatal? resolver options = none) :
    declaration.text? resolver options =
      (declaration.summary? resolver options).map FunctionSummary.text := by
  obtain ⟨text?, hresult⟩ := failure?_eq_none_iff.1 h
  rw [Declaration.text?, hresult]
  cases text? with
  | none => rw [summary?_of_skipped hresult, Option.map_none]
  | some text =>
    obtain ⟨summary, hsummary, htext⟩ := summary?_of_text hresult
    rw [hsummary, Option.map_some, htext]

end Declaration

namespace Pass

/-- What the functions of declarations say, in order. -/
def summaries (resolver : Resolver) (options : Options) (declarations : List Declaration) :
    List FunctionSummary :=
  declarations.filterMap (Declaration.summary? resolver options)

theorem visited_eq_map_text {resolver : Resolver} {options : Options}
    {declarations : List Declaration}
    (h : ∀ declaration ∈ declarations, declaration.fatal? resolver options = none) :
    visited resolver options declarations =
      (summaries resolver options declarations).map FunctionSummary.text := by
  rw [visited, summaries, List.map_filterMap]
  exact List.filterMap_congr fun declaration hmem =>
    Declaration.text?_eq_map_summary? (h declaration hmem)

end Pass

end FunctionForge
