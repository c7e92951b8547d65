import FunctionForge.Proofs.TypeExpr.Reader
import Mathlib.Data.List.Basic

/-!
# Reading accepts the grammar

A text is read as a type exactly if it is a layout of that type. Both sides are facts about tokens:
the scanner finds the tokens that the text is made of, and the reader ends with the type that has
those tokens.
-/

namespace FunctionForge.TypeExpr

/-! ### The end of the text -/

theorem Reads.eq_concat_finish {text : List Char} {tokens : List Token} (h : Reads text tokens) :
    ∃ found, tokens = found ++ [.finish] ∧ .finish ∉ found := by
  obtain ⟨located, hspelled, rfl⟩ := h.exists_spelled 0
  obtain ⟨others, rfl, hothers⟩ := hspelled.eq_concat
  exact ⟨others.map Located.token, List.map_append, hothers⟩

theorem finish_not_mem_markTokens (nullable : Bool) : .finish ∉ markTokens nullable := by
  cases nullable <;> simp [markTokens]

mutual

theorem finish_not_mem_typeTokens (type : TypeRef) : .finish ∉ typeTokens type := by
  cases type with
  | mk name nullable arguments =>
    simp [typeTokens, finish_not_mem_clauseTokens arguments, finish_not_mem_markTokens]

theorem finish_not_mem_argumentTokens (argument : TypeArg) :
    .finish ∉ argumentTokens argument := by
  cases argument with
  | star => simp [argumentTokens]
  | projected projection type =>
    cases projection <;>
      simp [argumentTokens, projectionTokens, finish_not_mem_typeTokens type]

theorem finish_not_mem_clauseTokens (arguments : List TypeArg) :
    .finish ∉ clauseTokens arguments := by
  cases arguments with
  | nil => simp [clauseTokens]
  | cons argument arguments =>
    simp [clauseTokens, finish_not_mem_argumentTokens argument,
      finish_not_mem_restTokens arguments]

theorem finish_not_mem_restTokens (arguments : List TypeArg) :
    .finish ∉ restTokens arguments := by
  cases arguments with
  | nil => simp [restTokens]
  | cons argument arguments =>
    simp [restTokens, finish_not_mem_argumentTokens argument, finish_not_mem_restTokens arguments]

end

/-! ### Texts, tokens and types -/

theorem parse_eq_ok_iff_reads {source : String} {type : TypeRef} :
    parse source = .ok type ↔ Reads source.toList (typeTokens type ++ [.finish]) := by
  constructor
  · intro h
    unfold parse at h
    split at h
    · simp at h
    · next located hscan =>
      have hreads : Reads source.toList (located.map Located.token) :=
        (exists_scan_iff_reads 0).1 ⟨located, hscan, rfl⟩
      obtain ⟨found, hfound, hfinish⟩ := hreads.eq_concat_finish
      obtain ⟨rest, hword, hrest⟩ := Reader.word_eq_of_run_eq_ok h
      have hlocated : typeTokens type ++ rest.map Located.token = found ++ [.finish] := by
        rw [← hword, ← hfound]
        simp [Reader.word, Reader.start, openedTokens, Task.tokens]
      cases rest with
      | nil =>
        have hmem : Token.finish ∈ typeTokens type := by
          rw [List.map_nil, List.append_nil] at hlocated
          simp [hlocated]
        exact absurd hmem (finish_not_mem_typeTokens type)
      | cons next rest =>
        rw [List.map_cons, show next.token = .finish from hrest, eq_comm,
          List.append_cons_inj_of_notMem hfinish List.not_mem_nil] at hlocated
        rwa [← hlocated.1, ← hfound]
  · intro h
    obtain ⟨located, hscan, hlocated⟩ := (exists_scan_iff_reads 0).2 h
    obtain ⟨tokens, rest, rfl, htokens, hrest⟩ := List.map_eq_append_iff.1 hlocated
    obtain ⟨next, rfl, hnext⟩ := List.map_eq_singleton_iff.1 hrest
    rw [parse, hscan]
    exact Reader.run_start htokens hnext

theorem parse_eq_ok_iff_isLayout {source : String} {type : TypeRef} :
    parse source = .ok type ↔ IsLayout type source.toList :=
  parse_eq_ok_iff_reads.trans isLayout_iff_reads.symm

theorem IsLayout.unique {left right : TypeRef} {text : List Char} (hleft : IsLayout left text)
    (hright : IsLayout right text) : left = right := by
  rw [← String.toList_ofList (l := text), ← parse_eq_ok_iff_isLayout] at hleft hright
  exact Except.ok.inj (hleft.symm.trans hright)

/-! ### No empty clause -/

theorem infix_of_cons {token : Token} {tokens : List Token} (htoken : token ≠ .opening)
    (h : [.opening, .closing] <:+: token :: tokens) : [.opening, .closing] <:+: tokens := by
  rcases List.infix_cons_iff.1 h with h | h
  · exact absurd (List.cons_prefix_cons.1 h).1.symm htoken
  · exact h

theorem argumentTokens_eq_cons (argument : TypeArg) :
    ∃ token tokens, argumentTokens argument = token :: tokens ∧ token ≠ .closing := by
  cases argument with
  | star => exact ⟨_, _, rfl, by simp⟩
  | projected projection type =>
    obtain ⟨tokens, htokens⟩ := typeTokens_eq_cons type
    rw [argumentTokens, htokens]
    cases projection <;> exact ⟨_, _, rfl, by simp⟩

mutual

theorem infix_of_typeTokens (type : TypeRef) {tokens : List Token}
    (h : [.opening, .closing] <:+: typeTokens type ++ tokens) :
    [.opening, .closing] <:+: tokens := by
  cases type with
  | mk name nullable arguments =>
    rw [typeTokens, List.cons_append, List.append_assoc] at h
    have hmark := infix_of_clauseTokens arguments (infix_of_cons (by simp) h)
    cases nullable with
    | false => exact hmark
    | true => exact infix_of_cons (by simp) hmark

theorem infix_of_argumentTokens (argument : TypeArg) {tokens : List Token}
    (h : [.opening, .closing] <:+: argumentTokens argument ++ tokens) :
    [.opening, .closing] <:+: tokens := by
  cases argument with
  | star => exact infix_of_cons (by simp) h
  | projected projection type =>
    rw [argumentTokens, List.append_assoc] at h
    cases projection with
    | invariant => exact infix_of_typeTokens type h
    | covariant | contravariant => exact infix_of_typeTokens type (infix_of_cons (by simp) h)

theorem infix_of_clauseTokens (arguments : List TypeArg) {tokens : List Token}
    (h : [.opening, .closing] <:+: clauseTokens arguments ++ tokens) :
    [.opening, .closing] <:+: tokens := by
  cases arguments with
  | nil => exact h
  | cons argument arguments =>
    rw [clauseTokens, List.cons_append, List.append_assoc] at h
    rcases List.infix_cons_iff.1 h with h | h
    · obtain ⟨token, following, hargument, htoken⟩ := argumentTokens_eq_cons argument
      rw [hargument] at h
      exact absurd (List.cons_prefix_cons.1 (List.cons_prefix_cons.1 h).2).1.symm htoken
    · exact infix_of_restTokens arguments (infix_of_argumentTokens argument h)

theorem infix_of_restTokens (arguments : List TypeArg) {tokens : List Token}
    (h : [.opening, .closing] <:+: restTokens arguments ++ tokens) :
    [.opening, .closing] <:+: tokens := by
  cases arguments with
  | nil => exact infix_of_cons (by simp) h
  | cons argument arguments =>
    rw [restTokens, List.cons_append, List.append_assoc] at h
    have hargument := infix_of_argumentTokens argument (infix_of_cons (by simp) h)
    exact infix_of_restTokens arguments hargument

end

/-- An opening bracket that only blanks part from a closing one occurs in no type. -/
theorem not_isLayout_of_empty_clause {before gap after : List Char} (hgap : IsGap gap)
    (type : TypeRef) : ¬IsLayout type (before ++ '<' :: (gap ++ '>' :: after)) := by
  intro h
  obtain ⟨left, right, htokens, hright⟩ := (isLayout_iff_reads.1 h).split_at_mark (c := '<') rfl
  obtain ⟨rest, rfl, -⟩ := (hright.of_gap_append hgap).exists_tail (c := '>') rfl
  have hinfix : [.opening, .closing] <:+: typeTokens type ++ [.finish] :=
    ⟨left, rest, by simp [htokens]⟩
  have hfinish := infix_of_typeTokens type hinfix
  simp [List.infix_cons_iff] at hfinish

/-! ### No prefix at the root -/

/-- An argument with a prefix is no type: a type has no second name behind its first one. -/
theorem not_isLayout_of_prefix {projection : Projection} {type : TypeRef} {text gap : List Char}
    (hprojection : projection ≠ .invariant)
    (htext : WritesArgument (.projected projection type) text) (hgap : IsGap gap)
    (whole : TypeRef) : ¬IsLayout whole (text ++ gap) := by
  intro h
  have htokens := (isLayout_iff_reads.1 h).unique (htext.reads hgap.reads hgap.endsName)
  obtain ⟨following, hfollowing⟩ := typeTokens_eq_cons type
  cases whole with
  | mk name nullable arguments =>
    have hsecond : ∃ word rest,
        clauseTokens arguments ++ (markTokens nullable ++ [.finish]) = .name word :: rest := by
      cases projection with
      | invariant => exact absurd rfl hprojection
      | covariant | contravariant =>
        simp only [typeTokens, argumentTokens, projectionTokens, hfollowing, List.cons_append,
          List.nil_append, List.append_assoc, List.cons.injEq] at htokens
        exact ⟨_, _, htokens.2⟩
    obtain ⟨word, rest, hsecond⟩ := hsecond
    cases arguments <;> cases nullable <;> simp [clauseTokens, markTokens] at hsecond

/-! ### A list of one type -/

theorem IsLayout.singleton {name text : List Char} {type : TypeRef} (hname : IsName name)
    (htext : IsLayout type text) :
    IsLayout (.mk (String.ofList name) false [.projected .invariant type])
      (name ++ '<' :: (text ++ ['>'])) := by
  obtain ⟨body, gap, rfl, hbody, hgap⟩ := htext
  have hclause := WritesClause.opening IsGap.nil (.invariant hbody) (.closing hgap)
  refine ⟨_, [], ?_, .type IsGap.nil hname hclause .plain, IsGap.nil⟩
  simp

/-- The parser accepts exactly the layouts of types, each as the one type that it lays out. A prefix
does not stand at the root, an argument list is not empty, and a type that is named like a prefix is
a type like any other, at the root and as an argument. -/
theorem parse_accepts_exactly_layouts :
    (∀ (source : String) (type : TypeRef),
      parse source = .ok type ↔ IsLayout type source.toList) ∧
    (∀ (text : List Char) (left right : TypeRef),
      IsLayout left text → IsLayout right text → left = right) ∧
    (∀ (projection : Projection) (type : TypeRef) (text gap : List Char),
      projection ≠ .invariant → WritesArgument (.projected projection type) text → IsGap gap →
        ∀ whole, parse (String.ofList (text ++ gap)) ≠ .ok whole) ∧
    (∀ before gap after : List Char, IsGap gap →
      ∀ type, parse (String.ofList (before ++ '<' :: (gap ++ '>' :: after))) ≠ .ok type) ∧
    (∀ (name text : List Char) (type : TypeRef), IsName name → type.name ∈ ["out", "in"] →
      IsLayout type text →
        parse (String.ofList text) = .ok type ∧
        parse (String.ofList (name ++ '<' :: (text ++ ['>']))) =
          .ok (.mk (String.ofList name) false [.projected .invariant type])) := by
  refine ⟨fun _ _ => parse_eq_ok_iff_isLayout, fun _ _ _ => IsLayout.unique, ?_, ?_, ?_⟩
  · intro projection type text gap hprojection htext hgap whole h
    rw [parse_eq_ok_iff_isLayout, String.toList_ofList] at h
    exact not_isLayout_of_prefix hprojection htext hgap whole h
  · intro before gap after hgap type h
    rw [parse_eq_ok_iff_isLayout, String.toList_ofList] at h
    exact not_isLayout_of_empty_clause hgap type h
  · intro name text type hname _ htext
    constructor
    · rwa [parse_eq_ok_iff_isLayout, String.toList_ofList]
    · rw [parse_eq_ok_iff_isLayout, String.toList_ofList]
      exact htext.singleton hname

end FunctionForge.TypeExpr
