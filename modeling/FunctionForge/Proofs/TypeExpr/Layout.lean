import FunctionForge.Proofs.TypeExpr.Scan
import FunctionForge.TypeExpr.Basic

/-!
# How types are written

The grammar of type expressions, one constructor for each production. Blanks may stand in front of
every token and at the end of the text; behind `out` and `in` there must be one, because a name
follows. A type fixes its tokens, so a text is a layout of a type exactly if the type's tokens are
what the text is made of. No text is a layout of two types for the same reason.
-/

namespace FunctionForge.TypeExpr

open Text

/-! ### The grammar -/

/-- A text writes the mark of a nullable type, or nothing for a type that is not. -/
inductive WritesMark : Bool → List Char → Prop
  | plain : WritesMark false []
  | nullable {gap : List Char} (hgap : IsGap gap) : WritesMark true (gap ++ ['?'])

mutual

/-- A text writes a type: its name, the clause of its arguments, and its mark. -/
inductive WritesType : TypeRef → List Char → Prop
  | type {gap name clause mark : List Char} {nullable : Bool} {arguments : List TypeArg}
      (hgap : IsGap gap) (hname : IsName name) (hclause : WritesClause arguments clause)
      (hmark : WritesMark nullable mark) :
      WritesType (.mk (String.ofList name) nullable arguments) (gap ++ name ++ clause ++ mark)

/-- A text writes an argument: a star, or a type that may follow `out` or `in`. -/
inductive WritesArgument : TypeArg → List Char → Prop
  | star {gap : List Char} (hgap : IsGap gap) : WritesArgument .star (gap ++ ['*'])
  | invariant {type : TypeRef} {text : List Char} (htype : WritesType type text) :
      WritesArgument (.projected .invariant type) text
  | covariant {gap text : List Char} {c : Char} {type : TypeRef} (hgap : IsGap gap)
      (hblank : isBlank c) (htype : WritesType type text) :
      WritesArgument (.projected .covariant type) (gap ++ "out".toList ++ c :: text)
  | contravariant {gap text : List Char} {c : Char} {type : TypeRef} (hgap : IsGap gap)
      (hblank : isBlank c) (htype : WritesType type text) :
      WritesArgument (.projected .contravariant type) (gap ++ "in".toList ++ c :: text)

/-- A text writes the clause of an argument list: nothing if there are no arguments, and otherwise a
list in angle brackets. -/
inductive WritesClause : List TypeArg → List Char → Prop
  | nothing : WritesClause [] []
  | opening {gap text rest : List Char} {argument : TypeArg} {arguments : List TypeArg}
      (hgap : IsGap gap) (hargument : WritesArgument argument text)
      (hrest : WritesRest arguments rest) :
      WritesClause (argument :: arguments) (gap ++ '<' :: (text ++ rest))

/-- A text writes what follows an argument: further arguments behind commas, and the closing
bracket. -/
inductive WritesRest : List TypeArg → List Char → Prop
  | closing {gap : List Char} (hgap : IsGap gap) : WritesRest [] (gap ++ ['>'])
  | comma {gap text rest : List Char} {argument : TypeArg} {arguments : List TypeArg}
      (hgap : IsGap gap) (hargument : WritesArgument argument text)
      (hrest : WritesRest arguments rest) :
      WritesRest (argument :: arguments) (gap ++ ',' :: (text ++ rest))

end

/-- A text is a layout of a type: it writes the type, and blanks may follow. -/
def IsLayout (type : TypeRef) (text : List Char) : Prop :=
  ∃ body gap, text = body ++ gap ∧ WritesType type body ∧ IsGap gap

/-! ### The tokens of a type -/

def markTokens (nullable : Bool) : List Token := if nullable then [.question] else []

def projectionTokens : Projection → List Token
  | .invariant => []
  | .covariant => [.name "out"]
  | .contravariant => [.name "in"]

mutual

/-- The tokens of a type. -/
def typeTokens : TypeRef → List Token
  | .mk name nullable arguments => .name name :: (clauseTokens arguments ++ markTokens nullable)

def argumentTokens : TypeArg → List Token
  | .star => [.star]
  | .projected projection type => projectionTokens projection ++ typeTokens type

def clauseTokens : List TypeArg → List Token
  | [] => []
  | argument :: rest => .opening :: (argumentTokens argument ++ restTokens rest)

def restTokens : List TypeArg → List Token
  | [] => [.closing]
  | argument :: rest => .comma :: (argumentTokens argument ++ restTokens rest)

end

/-! ### A layout is made of the tokens of its type -/

theorem endsName_gap_append {gap rest : List Char} {c : Char} {mark : Token} (hgap : IsGap gap)
    (hmark : Token.ofMark? c = some mark) : EndsName (gap ++ c :: rest) := by
  cases gap with
  | nil => exact endsName_of_ofMark? hmark rest
  | cons d gap => exact endsName_of_isBlank (hgap d List.mem_cons_self) _

theorem Reads.gap_mark {gap rest : List Char} {c : Char} {mark : Token} {tokens : List Token}
    (hgap : IsGap gap) (hmark : Token.ofMark? c = some mark) (hrest : Reads rest tokens) :
    Reads (gap ++ c :: rest) (mark :: tokens) :=
  .gap_append hgap (.mark hmark hrest)

theorem WritesMark.reads {nullable : Bool} {mark rest : List Char} {tokens : List Token}
    (h : WritesMark nullable mark) (hrest : Reads rest tokens) (hends : EndsName rest) :
    Reads (mark ++ rest) (markTokens nullable ++ tokens) ∧ EndsName (mark ++ rest) := by
  cases h with
  | plain => exact ⟨hrest, hends⟩
  | nullable hgap =>
    rw [List.append_assoc]
    exact ⟨.gap_mark hgap rfl hrest, endsName_gap_append hgap rfl⟩

theorem WritesClause.endsName {arguments : List TypeArg} {clause rest : List Char}
    (h : WritesClause arguments clause) (hends : EndsName rest) : EndsName (clause ++ rest) := by
  cases h with
  | nothing => exact hends
  | opening hgap =>
    rw [List.append_assoc]
    exact endsName_gap_append hgap rfl

theorem WritesRest.endsName {arguments : List TypeArg} {text : List Char}
    (h : WritesRest arguments text) (rest : List Char) : EndsName (text ++ rest) := by
  cases h with
  | closing hgap | comma hgap =>
    rw [List.append_assoc]
    exact endsName_gap_append hgap rfl

theorem Reads.word_blank {gap text : List Char} {word : String} {c : Char} {tokens : List Token}
    (hgap : IsGap gap) (hword : IsName word.toList) (hblank : isBlank c)
    (htext : Reads text tokens) :
    Reads (gap ++ (word.toList ++ c :: text)) (.name word :: tokens) := by
  have hname : Reads (word.toList ++ c :: text) (.name (String.ofList word.toList) :: tokens) :=
    .name hword (endsName_of_isBlank hblank text) (.blank hblank htext)
  rw [String.ofList_toList] at hname
  exact .gap_append hgap hname

theorem isName_out : IsName "out".toList := by decide

theorem isName_in : IsName "in".toList := by decide

mutual

theorem WritesType.reads {type : TypeRef} {text rest : List Char} {tokens : List Token}
    (h : WritesType type text) (hrest : Reads rest tokens) (hends : EndsName rest) :
    Reads (text ++ rest) (typeTokens type ++ tokens) := by
  cases h with
  | type hgap hname hclause hmark =>
    obtain ⟨hmark, hmarkEnds⟩ := hmark.reads hrest hends
    have hclauseReads := hclause.reads hmark
    simp only [typeTokens, List.append_assoc, List.cons_append]
    exact .gap_append hgap (.name hname (hclause.endsName hmarkEnds) hclauseReads)

theorem WritesArgument.reads {argument : TypeArg} {text rest : List Char} {tokens : List Token}
    (h : WritesArgument argument text) (hrest : Reads rest tokens) (hends : EndsName rest) :
    Reads (text ++ rest) (argumentTokens argument ++ tokens) := by
  cases h with
  | star hgap =>
    rw [List.append_assoc]
    exact .gap_mark hgap rfl hrest
  | invariant htype => exact htype.reads hrest hends
  | covariant hgap hblank htype =>
    rw [List.append_assoc, List.append_assoc]
    exact .word_blank hgap isName_out hblank (htype.reads hrest hends)
  | contravariant hgap hblank htype =>
    rw [List.append_assoc, List.append_assoc]
    exact .word_blank hgap isName_in hblank (htype.reads hrest hends)

theorem WritesClause.reads {arguments : List TypeArg} {text rest : List Char}
    {tokens : List Token} (h : WritesClause arguments text) (hrest : Reads rest tokens) :
    Reads (text ++ rest) (clauseTokens arguments ++ tokens) := by
  cases h with
  | nothing => exact hrest
  | opening hgap hargument hfollowing =>
    simp only [clauseTokens, List.append_assoc, List.cons_append]
    exact .gap_mark hgap rfl (hargument.reads (hfollowing.reads hrest) (hfollowing.endsName _))

theorem WritesRest.reads {arguments : List TypeArg} {text rest : List Char} {tokens : List Token}
    (h : WritesRest arguments text) (hrest : Reads rest tokens) :
    Reads (text ++ rest) (restTokens arguments ++ tokens) := by
  cases h with
  | closing hgap =>
    rw [List.append_assoc]
    exact .gap_mark hgap rfl hrest
  | comma hgap hargument hfollowing =>
    simp only [restTokens, List.append_assoc, List.cons_append]
    exact .gap_mark hgap rfl (hargument.reads (hfollowing.reads hrest) (hfollowing.endsName _))

end

/-! ### Those tokens make a layout -/

theorem exists_writesMark {nullable : Bool} {text : List Char} {tokens : List Token}
    (h : Reads text (markTokens nullable ++ tokens)) :
    ∃ mark rest, text = mark ++ rest ∧ WritesMark nullable mark ∧ Reads rest tokens := by
  cases nullable with
  | false => exact ⟨[], text, rfl, .plain, h⟩
  | true =>
    obtain ⟨gap, rest, rfl, hgap, hrest⟩ := h.exists_mark (c := '?') rfl
    exact ⟨gap ++ ['?'], rest, by simp, .nullable hgap, hrest⟩

theorem typeTokens_eq_cons (type : TypeRef) :
    ∃ tokens, typeTokens type = .name type.name :: tokens := by
  cases type
  exact ⟨_, rfl⟩

/-- A word in front of the tokens of a type is followed by a blank, because the type starts with a
name. -/
theorem Reads.exists_word {word : String} {type : TypeRef} {text : List Char}
    {tokens : List Token} (h : Reads text (.name word :: (typeTokens type ++ tokens))) :
    ∃ gap c rest, text = gap ++ word.toList ++ c :: rest ∧ IsGap gap ∧ isBlank c ∧
      Reads rest (typeTokens type ++ tokens) := by
  obtain ⟨following, hfollowing⟩ := typeTokens_eq_cons type
  obtain ⟨gap, rest, rfl, hgap, -, hends, hrest⟩ := h.exists_name
  rw [hfollowing, List.cons_append] at hrest ⊢
  obtain ⟨c, rest, rfl, hblank, hrest⟩ := hrest.exists_blank hends
  exact ⟨gap, c, rest, rfl, hgap, hblank, hrest⟩

mutual

theorem exists_writesType (type : TypeRef) {text : List Char} {tokens : List Token}
    (h : Reads text (typeTokens type ++ tokens)) :
    ∃ body rest, text = body ++ rest ∧ WritesType type body ∧ Reads rest tokens := by
  cases type with
  | mk name nullable arguments =>
    simp only [typeTokens, List.cons_append, List.append_assoc] at h
    obtain ⟨gap, text, rfl, hgap, hname, -, h⟩ := h.exists_name
    obtain ⟨clause, text, rfl, hclause, h⟩ := exists_writesClause arguments h
    obtain ⟨mark, rest, rfl, hmark, hrest⟩ := exists_writesMark h
    have htype := WritesType.type hgap hname hclause hmark
    rw [String.ofList_toList] at htype
    exact ⟨gap ++ name.toList ++ clause ++ mark, rest, by simp, htype, hrest⟩

theorem exists_writesArgument (argument : TypeArg) {text : List Char} {tokens : List Token}
    (h : Reads text (argumentTokens argument ++ tokens)) :
    ∃ body rest, text = body ++ rest ∧ WritesArgument argument body ∧ Reads rest tokens := by
  cases argument with
  | star =>
    obtain ⟨gap, rest, rfl, hgap, hrest⟩ := h.exists_mark (c := '*') rfl
    exact ⟨gap ++ ['*'], rest, by simp, .star hgap, hrest⟩
  | projected projection type =>
    cases projection with
    | invariant =>
      obtain ⟨body, rest, rfl, hbody, hrest⟩ := exists_writesType type h
      exact ⟨body, rest, rfl, .invariant hbody, hrest⟩
    | covariant =>
      obtain ⟨gap, c, text, rfl, hgap, hblank, h⟩ := Reads.exists_word h
      obtain ⟨body, rest, rfl, hbody, hrest⟩ := exists_writesType type h
      exact ⟨_, rest, by simp, .covariant hgap hblank hbody, hrest⟩
    | contravariant =>
      obtain ⟨gap, c, text, rfl, hgap, hblank, h⟩ := Reads.exists_word h
      obtain ⟨body, rest, rfl, hbody, hrest⟩ := exists_writesType type h
      exact ⟨_, rest, by simp, .contravariant hgap hblank hbody, hrest⟩

theorem exists_writesClause (arguments : List TypeArg) {text : List Char} {tokens : List Token}
    (h : Reads text (clauseTokens arguments ++ tokens)) :
    ∃ body rest, text = body ++ rest ∧ WritesClause arguments body ∧ Reads rest tokens := by
  cases arguments with
  | nil => exact ⟨[], text, rfl, .nothing, h⟩
  | cons argument arguments =>
    simp only [clauseTokens, List.cons_append, List.append_assoc] at h
    obtain ⟨gap, text, rfl, hgap, h⟩ := h.exists_mark (c := '<') rfl
    obtain ⟨first, text, rfl, hfirst, h⟩ := exists_writesArgument argument h
    obtain ⟨others, rest, rfl, hothers, hrest⟩ := exists_writesRest arguments h
    exact ⟨_, rest, by simp, .opening hgap hfirst hothers, hrest⟩

theorem exists_writesRest (arguments : List TypeArg) {text : List Char} {tokens : List Token}
    (h : Reads text (restTokens arguments ++ tokens)) :
    ∃ body rest, text = body ++ rest ∧ WritesRest arguments body ∧ Reads rest tokens := by
  cases arguments with
  | nil =>
    obtain ⟨gap, rest, rfl, hgap, hrest⟩ := h.exists_mark (c := '>') rfl
    exact ⟨gap ++ ['>'], rest, by simp, .closing hgap, hrest⟩
  | cons argument arguments =>
    simp only [restTokens, List.cons_append, List.append_assoc] at h
    obtain ⟨gap, text, rfl, hgap, h⟩ := h.exists_mark (c := ',') rfl
    obtain ⟨first, text, rfl, hfirst, h⟩ := exists_writesArgument argument h
    obtain ⟨others, rest, rfl, hothers, hrest⟩ := exists_writesRest arguments h
    exact ⟨_, rest, by simp, .comma hgap hfirst hothers, hrest⟩

end

theorem IsGap.reads {gap : List Char} (h : IsGap gap) : Reads gap [.finish] := by
  simpa using Reads.gap_append h .finish

theorem IsGap.endsName {gap : List Char} (h : IsGap gap) : EndsName gap := by
  cases gap with
  | nil => trivial
  | cons c gap => exact endsName_of_isBlank (h c List.mem_cons_self) gap

/-- A text is a layout of a type exactly if it is made of the tokens of the type. -/
theorem isLayout_iff_reads {type : TypeRef} {text : List Char} :
    IsLayout type text ↔ Reads text (typeTokens type ++ [.finish]) := by
  constructor
  · rintro ⟨body, gap, rfl, hbody, hgap⟩
    exact hbody.reads hgap.reads hgap.endsName
  · intro h
    obtain ⟨body, rest, rfl, hbody, hrest⟩ := exists_writesType type h
    exact ⟨body, rest, rfl, hbody, hrest.isGap⟩

end FunctionForge.TypeExpr
