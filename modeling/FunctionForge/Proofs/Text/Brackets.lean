import FunctionForge.Proofs.Text.Lines

/-!
# Brackets that nest

A text is read with the brackets that are open in front of it, innermost first, and a bracket may
only close the innermost one. Reading goes on from the brackets that a text leaves open, so a text
can be followed piece by piece, and a piece that nests leaves alone what is open around it.
-/

namespace FunctionForge.Text

/-- The bracket that a closing bracket belongs to. -/
def opening? : Char → Option Char
  | ')' => some '('
  | '}' => some '{'
  | '>' => some '<'
  | _ => none

/-- The brackets that are open after a character, none if it closes another one than the innermost.
-/
def nest (opened : List Char) (c : Char) : Option (List Char) :=
  if c ∈ ['(', '{', '<'] then some (c :: opened)
  else match opening? c with
    | none => some opened
    | some bracket => if opened.head? = some bracket then some opened.tail else none

/-- The brackets that are open after a text, none if it closes another one than the innermost. -/
def unclosed (opened text : List Char) : Option (List Char) := text.foldlM nest opened

/-- Brackets nest in a text: no beginning of it closes another one than the innermost, and at its
end all are closed. -/
structure IsNested (text : String) : Prop where
  innermost : ∀ before, before <+: text.toList → (unclosed [] before).isSome
  closed : unclosed [] text.toList = some []

/-- A text without brackets. -/
def HasNoBracket (text : String) : Prop :=
  ∀ c ∈ text.toList, c ∉ ['(', ')', '{', '}', '<', '>']

instance : DecidablePred HasNoBracket := fun text =>
  List.decidableBAll (· ∉ ['(', ')', '{', '}', '<', '>']) text.toList

/-- A text that is read with some brackets open and leaves others open. -/
def Leaves (opened : List Char) (text : String) (left : List Char) : Prop :=
  unclosed opened text.toList = some left

instance (opened : List Char) (text : String) (left : List Char) :
    Decidable (Leaves opened text left) :=
  inferInstanceAs (Decidable (unclosed opened text.toList = some left))

variable {opened between left : List Char} {text first second : String}

theorem unclosed_append (opened first second : List Char) :
    unclosed opened (first ++ second) =
      (unclosed opened first).bind fun between => unclosed between second :=
  List.foldlM_append

theorem isNested_iff : IsNested text ↔ Leaves [] text [] := by
  refine ⟨IsNested.closed, fun h => ⟨?_, h⟩⟩
  rintro before ⟨rest, hrest⟩
  rw [Leaves, ← hrest, unclosed_append, Option.bind_eq_some_iff] at h
  obtain ⟨between, hbetween, -⟩ := h
  rw [hbetween]
  rfl

theorem Leaves.append (hfirst : Leaves opened first between)
    (hsecond : Leaves between second left) : Leaves opened (first ++ second) left := by
  rw [Leaves, String.toList_append, unclosed_append, hfirst]
  exact hsecond

/-! ### What is open further out -/

/-- A bracket is closed on top of others as it is on its own. -/
theorem nest_append {c : Char} (h : nest opened c = some left) (outer : List Char) :
    nest (opened ++ outer) c = some (left ++ outer) := by
  rw [nest] at h ⊢
  split
  · next hopening =>
    rw [if_pos hopening] at h
    cases h
    rfl
  · next hopening =>
    rw [if_neg hopening] at h
    cases hpair : opening? c with
    | none =>
      rw [hpair] at h
      cases h
      rfl
    | some bracket =>
      simp only [hpair] at h ⊢
      split at h
      · next hhead =>
        cases h
        obtain ⟨inner, rfl⟩ := List.head?_eq_some_iff.1 hhead
        exact if_pos rfl
      · cases h

theorem unclosed_outer {text : List Char} (h : unclosed opened text = some left)
    (outer : List Char) : unclosed (opened ++ outer) text = some (left ++ outer) := by
  induction text generalizing opened with
  | nil =>
    cases h
    rfl
  | cons c rest ih =>
    rw [unclosed, List.foldlM_cons] at h ⊢
    obtain ⟨between, hc, hrest⟩ := Option.bind_eq_some_iff.1 h
    rw [nest_append hc outer]
    exact ih hrest

namespace IsNested

theorem leaves (h : IsNested text) (opened : List Char) : Leaves opened text opened := by
  have houter := unclosed_outer h.closed opened
  rwa [List.nil_append] at houter

theorem append (hfirst : IsNested first) (hsecond : IsNested second) :
    IsNested (first ++ second) :=
  isNested_iff.2 (Leaves.append hfirst.closed hsecond.closed)

theorem join {texts : List String} (h : ∀ text ∈ texts, IsNested text) :
    IsNested (String.join texts) := by
  induction texts with
  | nil => exact isNested_iff.2 rfl
  | cons text rest ih =>
    obtain ⟨htext, hrest⟩ := List.forall_mem_cons.1 h
    rw [String.join_cons]
    exact htext.append (ih hrest)

end IsNested

theorem nest_of_no_bracket {c : Char} (h : c ∉ ['(', ')', '{', '}', '<', '>']) :
    nest opened c = some opened := by
  simp only [List.mem_cons, List.not_mem_nil, or_false, not_or] at h
  obtain ⟨hround, hround', hcurly, hcurly', hangle, hangle'⟩ := h
  have hpair : opening? c = none := by
    rw [opening?] <;> assumption
  rw [nest, if_neg (by simp [hround, hcurly, hangle]), hpair]

theorem isNested_of_hasNoBracket (h : HasNoBracket text) : IsNested text := by
  rw [isNested_iff, Leaves]
  rw [HasNoBracket] at h
  generalize text.toList = letters at h ⊢
  induction letters with
  | nil => rfl
  | cons c rest ih =>
    obtain ⟨hc, hrest⟩ := List.forall_mem_cons.1 h
    rw [unclosed, List.foldlM_cons, nest_of_no_bracket hc]
    exact ih hrest

/-! ### Lines -/

theorem isNested_newline : IsNested "\n" := isNested_of_hasNoBracket (by decide)

theorem Leaves.joinLines_cons {line : String} {rest : List String}
    (hline : Leaves opened line between) (hrest : Leaves between (joinLines rest) left) :
    Leaves opened (joinLines (line :: rest)) left := by
  have hlines : joinLines (line :: rest) = line ++ "\n" ++ joinLines rest := by
    rw [← List.singleton_append, joinLines_append, joinLines_singleton]
  rw [hlines]
  exact (hline.append (isNested_newline.leaves between)).append hrest

theorem exists_joinLines_cons (line : String) (rest : List String) :
    ∃ front, joinLines (line :: rest) = front ++ "\n" := by
  obtain ⟨front, last, hlines⟩ :=
    (List.eq_nil_or_concat (line :: rest)).resolve_left (List.cons_ne_nil _ _)
  rw [hlines, List.concat_eq_append, joinLines_append, joinLines_singleton, ← String.append_assoc]
  exact ⟨_, rfl⟩

theorem isNested_joinLines {lines : List String} (h : ∀ line ∈ lines, IsNested line) :
    IsNested (joinLines lines) :=
  .join (List.forall_mem_map.2 fun line hline => (h line hline).append isNested_newline)

theorem isNested_indented {line : String} (h : IsNested line) : IsNested (indented line) :=
  .append (isNested_of_hasNoBracket (by decide)) h

end FunctionForge.Text
