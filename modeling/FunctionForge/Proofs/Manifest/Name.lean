import FunctionForge.Manifest.Unit

/-!
# Which names pass their checks

Identifiers and dotted identifiers as they are documented, apart from how they are checked. A dotted
identifier is identifiers joined by dots, and a text is joined in one way from parts without a dot,
so checking the segments of the text is enough.
-/

namespace FunctionForge

theorem Text.splitAt_eq_splitOn (separator : Char) (text : List Char) :
    Text.splitAt separator text = text.splitOn separator := by
  induction text with
  | nil => rfl
  | cons c rest ih =>
    simp only [splitAt, ih, List.splitOn_cons_eq_if_modifyHead, beq_iff_eq]
    by_cases hc : c = separator
    · rw [if_pos hc, if_pos hc]
    · rw [if_neg hc, if_neg hc]
      cases hrest : rest.splitOn separator with
      | nil => exact absurd hrest (List.splitOn_ne_nil separator rest)
      | cons part parts => rw [List.modifyHead_cons]

namespace Name

/-- An identifier: a letter or underscore, then letters, digits and underscores, all of ASCII. -/
def IsIdentifier (text : List Char) : Prop :=
  ∃ first rest, text = first :: rest ∧ (first.isAlpha ∨ first = '_') ∧
    ∀ c ∈ rest, c.isAlphanum ∨ c = '_'

/-- A name: an identifier that is no keyword. -/
def IsName (name : String) : Prop := name ∉ keywords ∧ IsIdentifier name.toList

/-- A dotted name: empty, or identifiers joined by dots. -/
def IsDotted (name : String) : Prop :=
  name = "" ∨ ∃ segments ≠ [], (∀ segment ∈ segments, IsIdentifier segment) ∧
    name.toList = ['.'].intercalate segments

theorem startsIdentifier_iff (c : Char) : startsIdentifier c ↔ c.isAlpha ∨ c = '_' := by
  have halpha : c.isAlpha = (decide ('A' ≤ c ∧ c ≤ 'Z') || ('a' ≤ c && c ≤ 'z')) := rfl
  rw [halpha]
  simp [startsIdentifier, or_comm]

theorem isIdentifierPart_iff (c : Char) : isIdentifierPart c ↔ c.isAlphanum ∨ c = '_' := by
  have halphanum : c.isAlphanum = (c.isAlpha || Text.isDigit c) := rfl
  rw [isIdentifierPart, halphanum, Bool.or_eq_true, Bool.or_eq_true, startsIdentifier_iff]
  exact or_right_comm

theorem isIdentifier_cons_iff (first : Char) (rest : List Char) :
    IsIdentifier (first :: rest) ↔
      (first.isAlpha ∨ first = '_') ∧ ∀ c ∈ rest, c.isAlphanum ∨ c = '_' := by
  constructor
  · rintro ⟨_, _, ⟨⟩, hfirst, hrest⟩
    exact ⟨hfirst, hrest⟩
  · rintro ⟨hfirst, hrest⟩
    exact ⟨first, rest, rfl, hfirst, hrest⟩

theorem fault?_eq_none_iff (text : List Char) : fault? text = none ↔ IsIdentifier text := by
  cases text with
  | nil => simp [fault?, IsIdentifier]
  | cons first rest =>
    rw [isIdentifier_cons_iff, ← startsIdentifier_iff, fault?]
    simp only [← isIdentifierPart_iff]
    cases startsIdentifier first <;> simp

theorem IsIdentifier.of_mem {text : List Char} (h : IsIdentifier text) {c : Char} (hc : c ∈ text) :
    c.isAlphanum ∨ c = '_' := by
  obtain ⟨first, rest, rfl, hfirst, hrest⟩ := h
  rcases List.mem_cons.1 hc with rfl | hc
  · exact hfirst.imp_left fun halpha => Bool.or_eq_true _ _ ▸ .inl halpha
  · exact hrest c hc

theorem IsIdentifier.dot_not_mem {text : List Char} (h : IsIdentifier text) : '.' ∉ text :=
  fun hdot => absurd (h.of_mem hdot) (by decide)

theorem IsIdentifier.slash_not_mem {text : List Char} (h : IsIdentifier text) : '/' ∉ text :=
  fun hslash => absurd (h.of_mem hslash) (by decide)

theorem IsIdentifier.newline_not_mem {text : List Char} (h : IsIdentifier text) : '\n' ∉ text :=
  fun hnewline => absurd (h.of_mem hnewline) (by decide)

theorem dottedFault?_eq_none_iff (name : String) :
    dottedFault? name = none ↔ ∃ segments ≠ [], (∀ segment ∈ segments, IsIdentifier segment) ∧
      name.toList = ['.'].intercalate segments := by
  rw [dottedFault?, List.findSome?_eq_none_iff]
  simp only [fault?_eq_none_iff, Text.splitAt_eq_splitOn]
  constructor
  · intro hall
    exact ⟨_, List.splitOn_ne_nil '.' name.toList, hall, (List.intercalate_splitOn '.').symm⟩
  · rintro ⟨segments, hsome, hall, hname⟩
    rw [hname, List.splitOn_intercalate '.' (fun segment h => (hall segment h).dot_not_mem) hsome]
    exact hall

/-- A dotted name that is not empty is split into identifiers. -/
theorem IsDotted.isIdentifier {name : String} (h : IsDotted name) (hne : name ≠ "") :
    ∀ segment ∈ Text.splitAt '.' name.toList, IsIdentifier segment := by
  obtain ⟨segments, hsome, hall, hname⟩ := h.resolve_left hne
  rw [Text.splitAt_eq_splitOn, hname,
    List.splitOn_intercalate '.' (fun segment h => (hall segment h).dot_not_mem) hsome]
  exact hall

end Name

end FunctionForge
