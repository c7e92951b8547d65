import FunctionForge.Text.Basic
import FunctionForge.TypeExpr.Token

/-!
# Names of type expressions

A name is one or more segments joined by dots. The reader of names is greedy, so what it finds is
pinned down by two facts: the characters it takes are a name, and the character after them could not
go on.

Of the Unicode classes only this is used: blanks, marks and the dot are neither letters nor
numerals, and the underscore is neither a blank nor a numeral.
-/

namespace FunctionForge.Text

/-- Whether no code point lies in a range of both lists. -/
def areApart (left right : List (Nat × Nat)) : Bool :=
  left.all fun (low, high) => right.all fun (low', high') => high < low' || high' < low

theorem inRanges_eq_false_of_areApart {code : Nat} {left right : List (Nat × Nat)}
    (hapart : areApart left right) (hleft : inRanges code left) : inRanges code right = false := by
  rw [Bool.eq_false_iff]
  intro hright
  obtain ⟨range, hrange, hlow, hhigh⟩ := exists_of_inRanges hleft
  obtain ⟨range', hrange', hlow', hhigh'⟩ := exists_of_inRanges hright
  simp only [areApart, List.all_eq_true, Bool.or_eq_true, decide_eq_true_eq] at hapart
  have hbounds := hapart range hrange range' hrange'
  omega

theorem isLetter_eq_false_of_isBlank {c : Char} (h : isBlank c) : isLetter c = false :=
  inRanges_eq_false_of_areApart (by decide +kernel) h

theorem isNumeral_eq_false_of_isBlank {c : Char} (h : isBlank c) : isNumeral c = false :=
  inRanges_eq_false_of_areApart (by decide +kernel) h

end FunctionForge.Text

namespace FunctionForge.TypeExpr

open Text

/-! ### Segments and names -/

def IsSegmentStart (c : Char) : Prop := c = '_' ∨ isLetter c ∧ ¬isNumeral c

def IsSegmentPart (c : Char) : Prop := c = '_' ∨ isLetter c ∨ isNumeral c

def IsSegment : List Char → Prop
  | [] => False
  | c :: rest => IsSegmentStart c ∧ ∀ d ∈ rest, IsSegmentPart d

/-- A name: the parts between its dots are segments, so no dot stands at either end. -/
def IsName (name : List Char) : Prop := ∀ segment ∈ splitAt '.' name, IsSegment segment

instance (c : Char) : Decidable (IsSegmentStart c) :=
  inferInstanceAs (Decidable (c = '_' ∨ isLetter c ∧ ¬isNumeral c))

instance (c : Char) : Decidable (IsSegmentPart c) :=
  inferInstanceAs (Decidable (c = '_' ∨ isLetter c ∨ isNumeral c))

instance : DecidablePred IsSegment
  | [] => isFalse id
  | _ :: rest => @instDecidableAnd _ _ _ (List.decidableBAll IsSegmentPart rest)

instance (name : List Char) : Decidable (IsName name) :=
  List.decidableBAll IsSegment (splitAt '.' name)

/-- A text that a name before it cannot take over: it is empty, or its first character is neither
part of a segment nor a dot. -/
def EndsName : List Char → Prop
  | [] => True
  | c :: _ => ¬IsSegmentPart c ∧ c ≠ '.'

theorem isNamePart_iff {c : Char} : isNamePart c ↔ IsSegmentPart c := by
  simp only [isNamePart, IsSegmentPart, Bool.or_eq_true, beq_iff_eq]
  exact or_comm

theorem isSegmentStart_iff {c : Char} : IsSegmentStart c ↔ IsSegmentPart c ∧ ¬isNumeral c := by
  have hunderscore : isNumeral '_' = false := by decide
  constructor
  · rintro (rfl | ⟨hletter, hnumeral⟩)
    · exact ⟨.inl rfl, by simp [hunderscore]⟩
    · exact ⟨.inr (.inl hletter), hnumeral⟩
  · rintro ⟨rfl | hletter | hnumeral, hnot⟩
    · exact .inl rfl
    · exact .inr ⟨hletter, hnot⟩
    · exact absurd hnumeral hnot

theorem not_isSegmentPart_of_isBlank {c : Char} (h : isBlank c) : ¬IsSegmentPart c := by
  rintro (rfl | hletter | hnumeral)
  · exact absurd h (by decide)
  · simp [isLetter_eq_false_of_isBlank h] at hletter
  · simp [isNumeral_eq_false_of_isBlank h] at hnumeral

theorem not_isSegmentPart_dot : ¬IsSegmentPart '.' := by
  rw [← isNamePart_iff]
  decide

/-! ### Names character by character

Inside a name there are two places to be: where a segment must start, and where one may go on. -/

/-- What is left of a name where a segment must start, or where one may go on. -/
def IsNameRest : Bool → List Char → Prop
  | fresh, [] => fresh = false
  | fresh, c :: rest =>
    if c = '.' then fresh = false ∧ IsNameRest true rest
    else (if fresh then IsSegmentStart c else IsSegmentPart c) ∧ IsNameRest false rest

/-- The parts of a name whose first one must start, or may go on. -/
def AreSegments (fresh : Bool) (first : List Char) (others : List (List Char)) : Prop :=
  (if fresh then IsSegment first else ∀ c ∈ first, IsSegmentPart c) ∧
    ∀ segment ∈ others, IsSegment segment

private theorem areSegments_cons {c : Char} {first : List Char} {others : List (List Char)}
    {fresh : Bool} : AreSegments fresh (c :: first) others ↔
      (if fresh then IsSegmentStart c else IsSegmentPart c) ∧ AreSegments false first others := by
  cases fresh <;> simp [AreSegments, IsSegment, and_assoc]

theorem isNameRest_iff {fresh : Bool} {name first : List Char} {others : List (List Char)}
    (hsplit : splitAt '.' name = first :: others) :
    IsNameRest fresh name ↔ AreSegments fresh first others := by
  induction name generalizing fresh first others with
  | nil =>
    obtain ⟨rfl, rfl⟩ : [] = first ∧ [] = others := by simpa [splitAt] using hsplit
    cases fresh <;> simp [IsNameRest, AreSegments, IsSegment]
  | cons c rest ih =>
    obtain ⟨part, parts, hrest⟩ := List.exists_cons_of_ne_nil (splitAt_ne_nil '.' rest)
    rw [splitAt] at hsplit
    rw [IsNameRest]
    by_cases hdot : c = '.'
    · rw [if_pos hdot, hrest] at hsplit
      obtain ⟨rfl, rfl⟩ := List.cons.inj hsplit
      rw [if_pos hdot, ih hrest]
      cases fresh <;> simp [AreSegments, IsSegment]
    · rw [if_neg hdot, hrest] at hsplit
      obtain ⟨rfl, rfl⟩ := List.cons.inj hsplit
      rw [if_neg hdot, ih hrest, areSegments_cons]

theorem isNameRest_true_iff {name : List Char} : IsNameRest true name ↔ IsName name := by
  obtain ⟨first, others, hsplit⟩ := List.exists_cons_of_ne_nil (splitAt_ne_nil '.' name)
  rw [isNameRest_iff hsplit, IsName, hsplit, List.forall_mem_cons]
  rfl

theorem IsNameRest.part_or_dot_of_mem {fresh : Bool} {name : List Char} {c : Char}
    (h : IsNameRest fresh name) (hc : c ∈ name) : IsSegmentPart c ∨ c = '.' := by
  induction name generalizing fresh with
  | nil => simp at hc
  | cons d rest ih =>
    rw [IsNameRest] at h
    rcases List.mem_cons.1 hc with rfl | hc
    · split at h
      · next hdot => exact .inr hdot
      · cases fresh with
        | true => exact .inl (isSegmentStart_iff.1 h.1).1
        | false => exact .inl h.1
    · split at h
      · exact ih h.2 hc
      · exact ih h.2 hc

theorem IsName.part_or_dot_of_mem {name : List Char} {c : Char} (h : IsName name) (hc : c ∈ name) :
    IsSegmentPart c ∨ c = '.' :=
  (isNameRest_true_iff.2 h).part_or_dot_of_mem hc

/-! ### The greedy reader -/

/-- What the reader takes is a name, and it goes on as long as it can. -/
theorem isNameRest_of_readName {fresh : Bool} {offset : Nat} {text name after : List Char}
    (h : readName fresh offset text = .ok (name, after)) :
    IsNameRest fresh name ∧ EndsName after := by
  fun_induction readName fresh offset text generalizing name after with
  | case1 => simp at h
  | case2 fresh offset hfresh =>
    simp only [Except.ok.injEq, Prod.mk.injEq] at h
    obtain ⟨rfl, rfl⟩ := h
    exact ⟨Bool.eq_false_iff.2 hfresh, trivial⟩
  | case3 => simp at h
  | case4 fresh offset c rest hpart hstart ih =>
    obtain ⟨⟨name', after'⟩, hrest, heq⟩ := exists_of_map_eq_ok h
    cases heq
    obtain ⟨hname, hafter⟩ := ih hrest
    rw [isNamePart_iff] at hpart
    have hdot : c ≠ '.' := fun hc => not_isSegmentPart_dot (hc ▸ hpart)
    refine ⟨?_, hafter⟩
    rw [IsNameRest, if_neg hdot]
    refine ⟨?_, hname⟩
    cases fresh with
    | true => exact isSegmentStart_iff.2 ⟨hpart, by simpa using hstart⟩
    | false => exact hpart
  | case5 => simp at h
  | case6 fresh offset rest hfresh hpart ih =>
    obtain ⟨⟨name', after'⟩, hrest, heq⟩ := exists_of_map_eq_ok h
    cases heq
    obtain ⟨hname, hafter⟩ := ih hrest
    refine ⟨?_, hafter⟩
    rw [IsNameRest, if_pos rfl]
    exact ⟨Bool.eq_false_iff.2 hfresh, hname⟩
  | case7 fresh offset c rest hpart hfresh hdot =>
    simp only [Except.ok.injEq, Prod.mk.injEq] at h
    obtain ⟨rfl, rfl⟩ := h
    rw [isNamePart_iff] at hpart
    exact ⟨Bool.eq_false_iff.2 hfresh, hpart, hdot⟩

/-- The reader takes a name whole where the text after it cannot go on. -/
theorem readName_append {fresh : Bool} {offset : Nat} {name after : List Char}
    (hname : IsNameRest fresh name) (hafter : EndsName after) :
    readName fresh offset (name ++ after) = .ok (name, after) := by
  induction name generalizing fresh offset with
  | nil =>
    obtain rfl : fresh = false := hname
    cases after with
    | nil => rfl
    | cons c rest =>
      obtain ⟨hpart, hdot⟩ := hafter
      rw [← isNamePart_iff] at hpart
      simp [readName, hpart, hdot]
  | cons c rest ih =>
    rw [IsNameRest] at hname
    split at hname
    · next hdot =>
      subst hdot
      obtain ⟨rfl, hrest⟩ := hname
      have hpart : isNamePart '.' = false := by decide
      simp [readName, hpart, ih hrest, Except.map]
    · obtain ⟨hfirst, hrest⟩ := hname
      have hpart : isNamePart c ∧ ¬(fresh ∧ isNumeral c) := by
        cases fresh with
        | true =>
          obtain ⟨hpart, hnumeral⟩ := isSegmentStart_iff.1 hfirst
          exact ⟨isNamePart_iff.2 hpart, fun h => hnumeral h.2⟩
        | false => exact ⟨isNamePart_iff.2 hfirst, fun h => by simp at h⟩
      simp only [List.cons_append, readName, if_pos hpart.1, Bool.and_eq_true, if_neg hpart.2,
        ih hrest]
      rfl

/-- A text is read as a name and the text after it exactly where the two make it up, and the name
stops only where it has to. -/
theorem readName_eq_ok_iff {offset : Nat} {text name after : List Char} :
    readName true offset text = .ok (name, after) ↔
      text = name ++ after ∧ IsName name ∧ EndsName after := by
  constructor
  · intro h
    obtain ⟨hname, hafter⟩ := isNameRest_of_readName h
    exact ⟨(append_of_readName h).symm, isNameRest_true_iff.1 hname, hafter⟩
  · rintro ⟨rfl, hname, hafter⟩
    exact readName_append (isNameRest_true_iff.2 hname) hafter

theorem IsName.exists_cons {name : List Char} (h : IsName name) :
    ∃ c rest, name = c :: rest ∧ IsSegmentStart c := by
  rw [← isNameRest_true_iff] at h
  cases name with
  | nil => simp [IsNameRest] at h
  | cons c rest =>
    rw [IsNameRest] at h
    split at h
    · simp at h
    · exact ⟨c, rest, rfl, h.1⟩

end FunctionForge.TypeExpr
