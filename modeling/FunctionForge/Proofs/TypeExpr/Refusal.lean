import FunctionForge.Proofs.Text.Boundary
import FunctionForge.Proofs.TypeExpr.Grammar
import FunctionForge.Proofs.TypeExpr.Progress

/-!
# Where a type expression goes wrong

The offset of an error lies between characters of the text. Where the text is made of tokens, the
offset is that of a token up to which the text could still have become a type, while with this token
and the one behind it no text is a type.
-/

namespace FunctionForge.TypeExpr

open Text

/-! ### Offsets in a text -/

/-- Whether an offset lies between characters of a text that starts at another offset. -/
def IsWithin (offset : Nat) (text : List Char) (place : Nat) : Prop :=
  ∃ before after, text = before ++ after ∧ place = offset + byteLength before

theorem IsWithin.refl (offset : Nat) (text : List Char) : IsWithin offset text offset :=
  ⟨[], text, rfl, rfl⟩

theorem IsWithin.append {offset place : Nat} {front text : List Char}
    (h : IsWithin (offset + byteLength front) text place) :
    IsWithin offset (front ++ text) place := by
  obtain ⟨before, after, rfl, rfl⟩ := h
  refine ⟨front ++ before, after, by rw [List.append_assoc], ?_⟩
  rw [byteLength_append]
  omega

theorem IsWithin.cons {offset place : Nat} {c : Char} {text : List Char}
    (h : IsWithin (offset + c.utf8Size) text place) : IsWithin offset (c :: text) place := by
  show IsWithin offset ([c] ++ text) place
  apply IsWithin.append
  simpa using h

theorem isBoundary_of_isWithin {source : String} {place : Nat}
    (h : IsWithin 0 source.toList place) : IsBoundary source place := by
  obtain ⟨before, after, hsource, rfl⟩ := h
  exact isBoundary_iff.2 ⟨before, after, hsource, (Nat.zero_add _).symm⟩

theorem Spelled.isWithin {offset : Nat} {text : List Char} {tokens : List Located}
    (h : Spelled offset text tokens) {token : Located} (htoken : token ∈ tokens) :
    IsWithin offset text token.offset := by
  obtain ⟨before, after, htext, hplace, -⟩ := h.exists_standing htoken
  exact ⟨before, token.token.spelling ++ after, by rw [htext, List.append_assoc], hplace⟩

theorem isWithin_of_readName {fresh : Bool} {offset : Nat} {text : List Char} {e : ParseError}
    (h : readName fresh offset text = .error e) : IsWithin offset text e.offset := by
  fun_induction readName fresh offset text with
  | case1 =>
    cases h
    exact .refl _ _
  | case2 => simp at h
  | case3 =>
    cases h
    exact .refl _ _
  | case4 fresh offset c rest _ _ ih => exact (ih (error_of_map_eq_error h)).cons
  | case5 =>
    cases h
    exact .refl _ _
  | case6 fresh offset rest _ _ ih => exact (ih (error_of_map_eq_error h)).cons
  | case7 => simp at h

theorem isWithin_of_scan {offset : Nat} {text : List Char} {e : ParseError}
    (h : scan offset text = .error e) : IsWithin offset text e.offset := by
  fun_induction scan offset text with
  | case1 => simp at h
  | case2 offset c rest _ ih => exact (ih h).cons
  | case3 offset c rest _ mark _ ih => exact (ih (error_of_map_eq_error h)).cons
  | case4 offset c rest _ _ _ e' hread =>
    cases h
    exact isWithin_of_readName hread
  | case5 offset c rest _ _ _ name after hread ih =>
    rw [← append_of_readName hread]
    exact (ih (error_of_map_eq_error h)).append
  | case6 =>
    cases h
    exact .refl _ _

/-! ### Completing what was read

An open type is closed by one bracket, and where a type must come, some name will do. -/

theorem Reader.Rooted.exists_type_of_place {argument : TypeArg} {opened : List OpenType}
    {tokens : List Located} (h : Reader.Rooted ⟨.place argument, opened, tokens⟩) :
    ∃ type, typeTokens type = openedTokens opened ++ argumentTokens argument ++
      List.replicate opened.length .closing := by
  induction opened generalizing argument tokens with
  | nil =>
    obtain ⟨type, rfl⟩ := h.whole rfl argument rfl
    exact ⟨type, by simp [openedTokens, argumentTokens, projectionTokens]⟩
  | cons parent outer ih =>
    have hclosing : Reader.step ⟨.place argument, parent :: outer, [⟨.closing, 0⟩]⟩ =
        .next ⟨.place (OpenType.closed ⟨parent.projection, parent.name,
          argument :: parent.reversed⟩ false), outer, []⟩ := rfl
    have hrooted : Reader.Rooted ⟨.place argument, parent :: outer, [⟨.closing, 0⟩]⟩ :=
      ⟨h.outermost, h.whole⟩
    obtain ⟨type, htype⟩ := ih (hrooted.step hclosing)
    have hword := Reader.word_step hclosing
    refine ⟨type, ?_⟩
    simp only [Reader.word, Task.tokens, List.map_nil, List.append_nil, List.map_cons] at hword
    rw [htype, hword, List.length_cons, List.replicate_succ, List.append_assoc]
    rfl

/-- What a reader has read begins the tokens of a type, which needs no names but those that were read
and one more. -/
theorem Reader.Rooted.exists_type {reader : Reader} (h : reader.Rooted) :
    ∃ type following, typeTokens type =
        openedTokens reader.opened ++ reader.task.tokens ++ following ∧
      ∀ name, .name name ∈ following → name = "T" := by
  obtain ⟨task, opened, tokens⟩ := reader
  cases task with
  | place argument =>
    obtain ⟨type, htype⟩ := h.exists_type_of_place
    refine ⟨type, _, htype, ?_⟩
    intro name hname
    simp [List.mem_replicate] at hname
  | read =>
    have hrooted : Reader.Rooted
        ⟨.place (.projected .invariant (.mk "T" false [])), opened, tokens⟩ := by
      refine ⟨h.outermost, ?_⟩
      intro _ argument hargument
      cases hargument
      exact ⟨_, rfl⟩
    obtain ⟨type, htype⟩ := hrooted.exists_type_of_place
    refine ⟨type, .name "T" :: List.replicate opened.length .closing, ?_, ?_⟩
    · simpa [argumentTokens, projectionTokens, typeTokens, clauseTokens, markTokens, Task.tokens]
        using htype
    · intro name hname
      simpa [List.mem_replicate] using hname

/-! ### Token lists that can go on -/

theorem Reads.isName_of_mem {text : List Char} {tokens : List Token} (h : Reads text tokens)
    {name : String} (hname : .name name ∈ tokens) : IsName name.toList := by
  induction h with
  | finish => simp at hname
  | blank _ _ ih => exact ih hname
  | mark hmark _ ih =>
    rcases List.mem_cons.1 hname with rfl | hname
    · exact absurd hmark ofMark?_ne_name
    · exact ih hname
  | name hname' _ _ ih =>
    rcases List.mem_cons.1 hname with h | hname
    · cases h
      rwa [String.toList_ofList]
    · exact ih hname

/-- Tokens are those of some text if their names are names. -/
theorem exists_reads (tokens : List Token) (hfinish : .finish ∉ tokens)
    (hnames : ∀ name, .name name ∈ tokens → IsName name.toList) :
    ∃ text, Reads text (tokens ++ [.finish]) := by
  induction tokens with
  | nil => exact ⟨[], .finish⟩
  | cons token tokens ih =>
    rw [List.mem_cons, not_or] at hfinish
    have hrest : ∀ name, .name name ∈ tokens → IsName name.toList :=
      fun name hname => hnames name (List.mem_cons_of_mem token hname)
    obtain ⟨text, htext⟩ := ih hfinish.2 hrest
    cases token with
    | name name => exact ⟨_, .word_blank (c := ' ') .nil (hnames name List.mem_cons_self) rfl htext⟩
    | opening => exact ⟨_, .mark (c := '<') rfl htext⟩
    | closing => exact ⟨_, .mark (c := '>') rfl htext⟩
    | comma => exact ⟨_, .mark (c := ',') rfl htext⟩
    | question => exact ⟨_, .mark (c := '?') rfl htext⟩
    | star => exact ⟨_, .mark (c := '*') rfl htext⟩
    | finish => exact absurd rfl hfinish.1

/-- Whether tokens begin those of a text that is a type, the end of the text last. -/
def IsViable (tokens : List Token) : Prop :=
  ∃ source type located, parse source = .ok type ∧ scan 0 source.toList = .ok located ∧
    tokens <+: located.map Located.token

theorem isViable_of_prefix {tokens : List Token} {type : TypeRef}
    (hnames : ∀ name, .name name ∈ typeTokens type → IsName name.toList)
    (h : tokens <+: typeTokens type) : IsViable tokens := by
  obtain ⟨text, htext⟩ := exists_reads _ (finish_not_mem_typeTokens type) hnames
  obtain ⟨located, hscan, hlocated⟩ := (exists_scan_iff_reads 0).2 htext
  refine ⟨String.ofList text, type, located, ?_, ?_, ?_⟩
  · rwa [parse_eq_ok_iff_reads, String.toList_ofList]
  · rwa [String.toList_ofList]
  · rw [hlocated]
    exact h.trans (List.prefix_append _ _)

theorem parse_eq_run {source : String} {tokens : List Located}
    (h : scan 0 source.toList = .ok tokens) : parse source = (Reader.start tokens).run := by
  rw [parse, h]

/-- The tokens in front of the one that is refused can go on, and with this one and the next they
cannot. -/
theorem isViable_of_refusedAt {text : List Char} {tokens before rest : List Located}
    {next : Located} (hreads : Reads text (tokens.map Located.token))
    (h : (Reader.start tokens).RefusedAt before next rest) :
    IsViable (before.map Located.token) ∧
      ¬IsViable ((before ++ next :: rest.take 1).map Located.token) := by
  constructor
  · obtain ⟨last, hrooted, hrest, hword⟩ := h.read
    have htokens : tokens = before ++ next :: rest := h.tokens_eq
    have hbefore : before.map Located.token = openedTokens last.opened ++ last.task.tokens := by
      rw [Reader.word, hrest] at hword
      simpa [Reader.word, Reader.start, openedTokens, Task.tokens, htokens,
        ← List.append_assoc] using hword.symm
    obtain ⟨type, following, htype, hfollowing⟩ := hrooted.exists_type
    rw [← hbefore] at htype
    have hnames : ∀ name, .name name ∈ typeTokens type → IsName name.toList := by
      intro name hname
      rw [htype, List.mem_append] at hname
      rcases hname with hname | hname
      · apply hreads.isName_of_mem
        rw [htokens, List.map_append]
        exact List.mem_append_left _ hname
      · rw [hfollowing name hname]
        decide
    exact isViable_of_prefix hnames ⟨following, htype.symm⟩
  · rintro ⟨source, type, located, hparse, hscan, hprefix⟩
    obtain ⟨e, he⟩ := h.refuses located hprefix
    rw [parse_eq_run hscan] at hparse
    exact absurd (hparse.symm.trans he) (by simp)

/-- Where the text is made of tokens, an error is at one of them. -/
theorem exists_refusedAt_of_parse {source : String} {tokens : List Located} {e : ParseError}
    (hscan : scan 0 source.toList = .ok tokens) (h : parse source = .error e) :
    ∃ before next rest, (Reader.start tokens).RefusedAt before next rest ∧
      next.offset = e.offset := by
  have hspelled : Spelled 0 source.toList tokens := scan_eq_ok_iff.1 hscan
  obtain ⟨found, hfound, -⟩ := hspelled.reads.eq_concat_finish
  have hfinish : .finish ∈ tokens.map Located.token := by
    rw [hfound]
    exact List.mem_append_right found List.mem_cons_self
  rw [parse_eq_run hscan] at h
  obtain ⟨before, next, rest, hrefused, hoffset, -⟩ :=
    Reader.exists_refusedAt (.start tokens) hfinish h
  exact ⟨before, next, rest, hrefused, hoffset⟩

theorem isBoundary_of_parse {source : String} {e : ParseError} (h : parse source = .error e) :
    IsBoundary source e.offset := by
  cases hscan : scan 0 source.toList with
  | error e' =>
    rw [parse, hscan] at h
    cases h
    exact isBoundary_of_isWithin (isWithin_of_scan hscan)
  | ok tokens =>
    obtain ⟨before, next, rest, hrefused, hoffset⟩ := exists_refusedAt_of_parse hscan h
    have htokens : tokens = before ++ next :: rest := hrefused.tokens_eq
    rw [← hoffset]
    exact isBoundary_of_isWithin ((scan_eq_ok_iff.1 hscan).isWithin (by simp [htokens]))

/-- An error lies between characters of the text. If the text is made of tokens, the error is at one
of them: the tokens in front of it begin those of a type, and no type's tokens begin with them, it
and the one behind it. -/
theorem parse_error_at_first_fault {source : String} {e : ParseError}
    (h : parse source = .error e) :
    e.offset ≤ size source ∧ IsBoundary source e.offset ∧
      ∀ tokens, scan 0 source.toList = .ok tokens →
        ∃ k token, tokens[k]? = some token ∧ token.offset = e.offset ∧
          IsViable ((tokens.map Located.token).take k) ∧
          ¬IsViable ((tokens.map Located.token).take (k + 2)) := by
  have hboundary := isBoundary_of_parse h
  refine ⟨hboundary.le_size, hboundary, ?_⟩
  intro tokens hscan
  obtain ⟨before, next, rest, hrefused, hoffset⟩ := exists_refusedAt_of_parse hscan h
  obtain ⟨hviable, hdead⟩ := isViable_of_refusedAt (scan_eq_ok_iff.1 hscan).reads hrefused
  have htokens : tokens = before ++ next :: rest := hrefused.tokens_eq
  refine ⟨before.length, next, by simp [htokens], hoffset, ?_, ?_⟩
  · rwa [← List.map_take, htokens, List.take_left]
  · rwa [← List.map_take, htokens, List.take_length_add_append]

theorem parse_error_at_first_fault_of_second_name :
    parse "List<A B>" = .error ⟨.mismatch .projectionOrName (.name "A"), 5⟩ ∧
      IsBoundary "List<A B>" 5 ∧
      ∃ tokens k, scan 0 "List<A B>".toList = .ok tokens ∧
        IsViable ((tokens.map Located.token).take k) ∧
        ¬IsViable ((tokens.map Located.token).take (k + 2)) := by
  have hscan : scan 0 "List<A B>".toList = .ok [⟨.name "List", 0⟩, ⟨.opening, 4⟩, ⟨.name "A", 5⟩,
      ⟨.name "B", 7⟩, ⟨.closing, 8⟩, ⟨.finish, 9⟩] := by decide +kernel
  have hparse : parse "List<A B>" = .error ⟨.mismatch .projectionOrName (.name "A"), 5⟩ :=
    (parse_eq_run hscan).trans ((Reader.run_eq_of_step rfl).trans (Reader.run_eq_of_stop rfl))
  obtain ⟨-, hboundary, h⟩ := parse_error_at_first_fault hparse
  obtain ⟨k, token, -, -, hviable, hdead⟩ := h _ hscan
  exact ⟨hparse, hboundary, _, k, hscan, hviable, hdead⟩

end FunctionForge.TypeExpr
