import FunctionForge.Proofs.TypeExpr.Name

/-!
# What the scanner finds in a text

`Spelled` says which located tokens a text is made of: blanks are passed over, a mark is a token of
one character, and a name is taken together with the fact that the text after it could not go on.
The scanner computes exactly this relation. What is said about it below is said once for each
character or token, so nothing else has to open the scanner.
-/

namespace FunctionForge.TypeExpr

open Text

/-! ### Characters of the three kinds -/

theorem ofMark?_eq_none_of_isBlank {c : Char} (h : isBlank c) : Token.ofMark? c = none := by
  unfold Token.ofMark?
  split
  case h_6 => rfl
  all_goals exact absurd h (by decide)

theorem spelling_of_ofMark? {c : Char} {mark : Token} (h : Token.ofMark? c = some mark) :
    mark.spelling = [c] := by
  unfold Token.ofMark? at h
  split at h
  case h_6 => simp at h
  all_goals
    cases h
    rfl

theorem ofMark?_ne_name {c : Char} {name : String} : Token.ofMark? c ≠ some (.name name) := by
  intro h
  unfold Token.ofMark? at h
  split at h <;> simp at h

theorem endsName_of_ofMark? {c : Char} {mark : Token} (h : Token.ofMark? c = some mark)
    (rest : List Char) : EndsName (c :: rest) := by
  rw [EndsName, ← isNamePart_iff]
  unfold Token.ofMark? at h
  split at h
  case h_6 => simp at h
  all_goals decide

theorem endsName_of_isBlank {c : Char} (h : isBlank c) (rest : List Char) :
    EndsName (c :: rest) := by
  refine ⟨not_isSegmentPart_of_isBlank h, ?_⟩
  rintro rfl
  exact absurd h (by decide)

theorem startsName_of_isSegmentStart {c : Char} (h : IsSegmentStart c) : startsName c := by
  rcases h with rfl | ⟨hletter, -⟩
  · decide
  · simp [startsName, hletter]

/-- A segment starts with a character that is neither a blank nor a mark. -/
theorem not_blank_or_mark_of_isSegmentStart {c : Char} (h : IsSegmentStart c) :
    isBlank c = false ∧ Token.ofMark? c = none := by
  have hpart : IsSegmentPart c := (isSegmentStart_iff.1 h).1
  constructor
  · rw [Bool.eq_false_iff]
    exact fun hblank => not_isSegmentPart_of_isBlank hblank hpart
  · rw [Option.eq_none_iff_forall_ne_some]
    exact fun mark hmark => (endsName_of_ofMark? hmark []).1 hpart

/-! ### The tokens of a text -/

/-- The tokens that a text at a byte offset is made of, the end of the text last. -/
inductive Spelled : Nat → List Char → List Located → Prop
  | finish (offset : Nat) : Spelled offset [] [⟨.finish, offset⟩]
  | blank {offset : Nat} {c : Char} {text : List Char} {tokens : List Located} (hblank : isBlank c)
      (htext : Spelled (offset + c.utf8Size) text tokens) : Spelled offset (c :: text) tokens
  | mark {offset : Nat} {c : Char} {mark : Token} {text : List Char} {tokens : List Located}
      (hmark : Token.ofMark? c = some mark) (htext : Spelled (offset + c.utf8Size) text tokens) :
      Spelled offset (c :: text) (⟨mark, offset⟩ :: tokens)
  | name {offset : Nat} {name text : List Char} {tokens : List Located} (hname : IsName name)
      (hends : EndsName text) (htext : Spelled (offset + byteLength name) text tokens) :
      Spelled offset (name ++ text) (⟨.name (String.ofList name), offset⟩ :: tokens)

theorem spelled_of_scan {offset : Nat} {text : List Char} {tokens : List Located}
    (h : scan offset text = .ok tokens) : Spelled offset text tokens := by
  fun_induction scan offset text generalizing tokens with
  | case1 offset =>
    cases h
    exact .finish offset
  | case2 offset c rest hblank ih => exact .blank hblank (ih h)
  | case3 offset c rest hblank mark hmark ih =>
    obtain ⟨tokens', hrest, rfl⟩ := exists_of_map_eq_ok h
    exact .mark hmark (ih hrest)
  | case4 => simp at h
  | case5 offset c rest hblank hmark hstart name after hread ih =>
    obtain ⟨tokens', hrest, rfl⟩ := exists_of_map_eq_ok h
    obtain ⟨htext, hname, hends⟩ := readName_eq_ok_iff.1 hread
    rw [htext]
    exact .name hname hends (ih hrest)
  | case6 => simp at h

theorem scan_of_spelled {offset : Nat} {text : List Char} {tokens : List Located}
    (h : Spelled offset text tokens) : scan offset text = .ok tokens := by
  induction h with
  | finish offset => rw [scan]
  | blank hblank _ ih => rw [scan, if_pos hblank, ih]
  | @mark offset c mark text tokens hmark _ ih =>
    have hblank : ¬isBlank c := fun h => by simp [ofMark?_eq_none_of_isBlank h] at hmark
    rw [scan, if_neg hblank, hmark, ih]
    rfl
  | @name offset name text tokens hname hends _ ih =>
    obtain ⟨c, rest, rfl, hstart⟩ := hname.exists_cons
    obtain ⟨hblank, hmark⟩ := not_blank_or_mark_of_isSegmentStart hstart
    have hread : readName true offset (c :: rest ++ text) = .ok (c :: rest, text) :=
      readName_eq_ok_iff.2 ⟨rfl, hname, hends⟩
    rw [List.cons_append] at hread
    rw [List.cons_append, scan, if_neg (by simp [hblank]), hmark]
    simp only [if_pos (startsName_of_isSegmentStart hstart)]
    split
    · next e hfails => simp [hread] at hfails
    · next name' after hfound =>
      rw [hread] at hfound
      cases hfound
      rw [ih]
      rfl

/-- The scanner finds exactly the tokens that a text is made of. -/
theorem scan_eq_ok_iff {offset : Nat} {text : List Char} {tokens : List Located} :
    scan offset text = .ok tokens ↔ Spelled offset text tokens :=
  ⟨spelled_of_scan, scan_of_spelled⟩

/-- The end of the text is the last token, and only the last. -/
theorem Spelled.eq_concat {offset : Nat} {text : List Char} {tokens : List Located}
    (h : Spelled offset text tokens) :
    ∃ others, tokens = others ++ [⟨.finish, offset + byteLength text⟩] ∧
      .finish ∉ others.map Located.token := by
  induction h with
  | finish offset => exact ⟨[], rfl, List.not_mem_nil⟩
  | @blank offset c text tokens _ _ ih =>
    rw [byteLength_cons, ← Nat.add_assoc]
    exact ih
  | @mark offset c mark text tokens hmark _ ih =>
    obtain ⟨others, rfl, hothers⟩ := ih
    have hfinish : .finish ≠ mark := by
      rintro rfl
      simpa [Token.spelling] using spelling_of_ofMark? hmark
    rw [byteLength_cons, ← Nat.add_assoc]
    exact ⟨⟨mark, offset⟩ :: others, rfl, List.not_mem_cons_of_ne_of_not_mem hfinish hothers⟩
  | @name offset name text tokens _ _ _ ih =>
    obtain ⟨others, rfl, hothers⟩ := ih
    rw [byteLength_append, ← Nat.add_assoc]
    exact ⟨⟨.name (String.ofList name), offset⟩ :: others, rfl,
      List.not_mem_cons_of_ne_of_not_mem (by simp) hothers⟩

/-- A token stands where it is found, and a name cannot go on behind it. -/
theorem Spelled.exists_standing {offset : Nat} {text : List Char} {tokens : List Located}
    (h : Spelled offset text tokens) {t : Located} (ht : t ∈ tokens) :
    ∃ before after, text = before ++ t.token.spelling ++ after ∧
      t.offset = offset + byteLength before ∧
      ∀ name, t.token = .name name → IsName name.toList ∧ EndsName after := by
  induction h with
  | finish offset =>
    obtain rfl := List.mem_singleton.1 ht
    exact ⟨[], [], rfl, rfl, fun name hname => by simp at hname⟩
  | @blank offset c text tokens _ _ ih =>
    obtain ⟨before, after, rfl, hplace, hname⟩ := ih ht
    refine ⟨c :: before, after, rfl, ?_, hname⟩
    rw [hplace, byteLength_cons, Nat.add_assoc]
  | @mark offset c mark text tokens hmark _ ih =>
    rcases List.mem_cons.1 ht with rfl | ht
    · refine ⟨[], text, by rw [spelling_of_ofMark? hmark]; rfl, rfl, ?_⟩
      rintro name rfl
      exact absurd hmark ofMark?_ne_name
    · obtain ⟨before, after, rfl, hplace, hname⟩ := ih ht
      refine ⟨c :: before, after, rfl, ?_, hname⟩
      rw [hplace, byteLength_cons, Nat.add_assoc]
  | @name offset name text tokens hisName hends _ ih =>
    rcases List.mem_cons.1 ht with rfl | ht
    · refine ⟨[], text, by simp [Token.spelling], rfl, ?_⟩
      intro name' hname'
      obtain rfl := Token.name.inj hname'
      rw [String.toList_ofList]
      exact ⟨hisName, hends⟩
    · obtain ⟨before, after, rfl, hplace, hname'⟩ := ih ht
      refine ⟨name ++ before, after, by simp, ?_, hname'⟩
      rw [hplace, byteLength_append, Nat.add_assoc]

/-! ### Tokens without their places

A grammar speaks of tokens only. `Reads` is `Spelled` with the offsets left out. -/

/-- The tokens that a text is made of, the end of the text last. -/
inductive Reads : List Char → List Token → Prop
  | finish : Reads [] [.finish]
  | blank {c : Char} {text : List Char} {tokens : List Token} (hblank : isBlank c)
      (htext : Reads text tokens) : Reads (c :: text) tokens
  | mark {c : Char} {mark : Token} {text : List Char} {tokens : List Token}
      (hmark : Token.ofMark? c = some mark) (htext : Reads text tokens) :
      Reads (c :: text) (mark :: tokens)
  | name {name text : List Char} {tokens : List Token} (hname : IsName name)
      (hends : EndsName text) (htext : Reads text tokens) :
      Reads (name ++ text) (.name (String.ofList name) :: tokens)

theorem Spelled.reads {offset : Nat} {text : List Char} {tokens : List Located}
    (h : Spelled offset text tokens) : Reads text (tokens.map Located.token) := by
  induction h with
  | finish => exact .finish
  | blank hblank _ ih => exact .blank hblank ih
  | mark hmark _ ih => exact .mark hmark ih
  | name hname hends _ ih => exact .name hname hends ih

theorem Reads.exists_spelled {text : List Char} {tokens : List Token} (h : Reads text tokens)
    (offset : Nat) : ∃ located, Spelled offset text located ∧
      located.map Located.token = tokens := by
  induction h generalizing offset with
  | finish => exact ⟨_, .finish offset, rfl⟩
  | blank hblank _ ih =>
    obtain ⟨located, hspelled, hmap⟩ := ih (offset + Char.utf8Size _)
    exact ⟨located, .blank hblank hspelled, hmap⟩
  | mark hmark _ ih =>
    obtain ⟨located, hspelled, hmap⟩ := ih (offset + Char.utf8Size _)
    exact ⟨_, .mark hmark hspelled, congrArg _ hmap⟩
  | name hname hends _ ih =>
    obtain ⟨located, hspelled, hmap⟩ := ih (offset + byteLength _)
    exact ⟨_, .name hname hends hspelled, congrArg _ hmap⟩

/-- The scanner succeeds exactly on the texts that are made of tokens, and finds those. -/
theorem exists_scan_iff_reads {text : List Char} {tokens : List Token} (offset : Nat) :
    (∃ located, scan offset text = .ok located ∧ located.map Located.token = tokens) ↔
      Reads text tokens := by
  constructor
  · rintro ⟨located, hscan, rfl⟩
    exact (scan_eq_ok_iff.1 hscan).reads
  · intro h
    obtain ⟨located, hspelled, hmap⟩ := h.exists_spelled offset
    exact ⟨located, scan_eq_ok_iff.2 hspelled, hmap⟩

theorem Reads.unique {text : List Char} {left right : List Token}
    (hleft : Reads text left) (hright : Reads text right) : left = right := by
  obtain ⟨located, hscan, rfl⟩ := (exists_scan_iff_reads 0).2 hleft
  obtain ⟨located', hscan', rfl⟩ := (exists_scan_iff_reads 0).2 hright
  rw [hscan] at hscan'
  rw [Except.ok.inj hscan']

/-! ### Taking a text apart at its first token -/

def IsGap (gap : List Char) : Prop := ∀ c ∈ gap, isBlank c

theorem IsGap.nil : IsGap [] := fun _ h => absurd h List.not_mem_nil

theorem IsGap.cons {c : Char} {gap : List Char} (hc : isBlank c) (hgap : IsGap gap) :
    IsGap (c :: gap) := List.forall_mem_cons.2 ⟨hc, hgap⟩

theorem Reads.gap_append {gap text : List Char} {tokens : List Token} (hgap : IsGap gap)
    (htext : Reads text tokens) : Reads (gap ++ text) tokens := by
  induction gap with
  | nil => exact htext
  | cons c gap ih =>
    obtain ⟨hc, hgap⟩ := List.forall_mem_cons.1 hgap
    exact .blank hc (ih hgap)

theorem Reads.isGap {text : List Char} (h : Reads text [.finish]) : IsGap text := by
  generalize htokens : [Token.finish] = tokens at h
  induction h with
  | finish => exact IsGap.nil
  | blank hblank _ ih => exact .cons hblank (ih htokens)
  | mark hmark =>
    cases htokens
    simpa [Token.spelling] using spelling_of_ofMark? hmark
  | name => simp at htokens

theorem Reads.exists_mark {c : Char} {mark : Token} {text : List Char} {tokens : List Token}
    (hmark : Token.ofMark? c = some mark) (h : Reads text (mark :: tokens)) :
    ∃ gap rest, text = gap ++ c :: rest ∧ IsGap gap ∧ Reads rest tokens := by
  have hspelling := spelling_of_ofMark? hmark
  generalize htokens : mark :: tokens = found at h
  induction h with
  | finish =>
    obtain ⟨rfl, -⟩ := List.cons.inj htokens
    simp [Token.spelling] at hspelling
  | @blank c' text found hblank _ ih =>
    obtain ⟨gap, rest, rfl, hgap, hrest⟩ := ih htokens
    exact ⟨c' :: gap, rest, rfl, hgap.cons hblank, hrest⟩
  | @mark c' mark' text found hmark' htext =>
    obtain ⟨rfl, rfl⟩ := List.cons.inj htokens
    obtain rfl : c = c' := by simpa [hspelling] using spelling_of_ofMark? hmark'
    exact ⟨[], text, rfl, IsGap.nil, htext⟩
  | name =>
    obtain ⟨rfl, -⟩ := List.cons.inj htokens
    exact absurd hmark ofMark?_ne_name

theorem Reads.exists_name {name : String} {text : List Char} {tokens : List Token}
    (h : Reads text (.name name :: tokens)) :
    ∃ gap rest, text = gap ++ name.toList ++ rest ∧ IsGap gap ∧ IsName name.toList ∧
      EndsName rest ∧ Reads rest tokens := by
  generalize htokens : Token.name name :: tokens = found at h
  induction h with
  | finish => simp at htokens
  | @blank c text found hblank _ ih =>
    obtain ⟨gap, rest, rfl, hgap, hfound⟩ := ih htokens
    exact ⟨c :: gap, rest, rfl, hgap.cons hblank, hfound⟩
  | mark hmark =>
    obtain ⟨rfl, -⟩ := List.cons.inj htokens
    exact absurd hmark ofMark?_ne_name
  | @name name' text found hname hends htext =>
    simp only [List.cons.injEq, Token.name.injEq] at htokens
    obtain ⟨rfl, rfl⟩ := htokens
    exact ⟨[], text, by simp, IsGap.nil, by simpa using hname, hends, htext⟩

/-- Where a name comes next and an earlier one could not take it over, there is a blank first. -/
theorem Reads.exists_blank {name : String} {text : List Char} {tokens : List Token}
    (h : Reads text (.name name :: tokens)) (hends : EndsName text) :
    ∃ c rest, text = c :: rest ∧ isBlank c ∧ Reads rest (.name name :: tokens) := by
  generalize htokens : Token.name name :: tokens = found at h
  cases h with
  | finish => simp at htokens
  | @blank c text found hblank htext => exact ⟨c, text, rfl, hblank, htext⟩
  | mark hmark =>
    obtain ⟨rfl, -⟩ := List.cons.inj htokens
    exact absurd hmark ofMark?_ne_name
  | name hname =>
    obtain ⟨c, rest, rfl, hstart⟩ := hname.exists_cons
    exact absurd (isSegmentStart_iff.1 hstart).1 hends.1

theorem Reads.exists_tail {c : Char} {mark : Token} {text : List Char}
    {tokens : List Token} (hmark : Token.ofMark? c = some mark) (h : Reads (c :: text) tokens) :
    ∃ rest, tokens = mark :: rest ∧ Reads text rest := by
  generalize htext : c :: text = whole at h
  cases h with
  | finish => simp at htext
  | blank hblank =>
    cases htext
    simp [ofMark?_eq_none_of_isBlank hblank] at hmark
  | mark hmark' hrest =>
    cases htext
    cases hmark.symm.trans hmark'
    exact ⟨_, rfl, hrest⟩
  | name hname =>
    obtain ⟨d, rest, rfl, hstart⟩ := hname.exists_cons
    cases htext
    simp [(not_blank_or_mark_of_isSegmentStart hstart).2] at hmark

theorem Reads.of_blank {c : Char} {text : List Char} {tokens : List Token} (hblank : isBlank c)
    (h : Reads (c :: text) tokens) : Reads text tokens := by
  generalize htext : c :: text = whole at h
  cases h with
  | finish => simp at htext
  | blank _ hrest =>
    cases htext
    exact hrest
  | mark hmark =>
    cases htext
    simp [ofMark?_eq_none_of_isBlank hblank] at hmark
  | name hname =>
    obtain ⟨d, rest, rfl, hstart⟩ := hname.exists_cons
    cases htext
    simp [(not_blank_or_mark_of_isSegmentStart hstart).1] at hblank

theorem Reads.of_gap_append {gap text : List Char} {tokens : List Token} (hgap : IsGap gap)
    (h : Reads (gap ++ text) tokens) : Reads text tokens := by
  induction gap with
  | nil => exact h
  | cons c gap ih =>
    obtain ⟨hc, hgap⟩ := List.forall_mem_cons.1 hgap
    exact ih hgap (h.of_blank hc)

/-- A mark is a token wherever it stands. -/
theorem Reads.split_at_mark {c : Char} {mark : Token} {before text : List Char}
    {tokens : List Token} (hmark : Token.ofMark? c = some mark)
    (h : Reads (before ++ c :: text) tokens) :
    ∃ left right, tokens = left ++ mark :: right ∧ Reads text right := by
  generalize hwhole : before ++ c :: text = whole at h
  induction h generalizing before with
  | finish => simp at hwhole
  | @blank d whole tokens hblank hrest ih =>
    cases before with
    | nil =>
      cases hwhole
      simp [ofMark?_eq_none_of_isBlank hblank] at hmark
    | cons d before => exact ih (List.cons.inj hwhole).2
  | @mark d mark' whole tokens hmark' hrest ih =>
    cases before with
    | nil =>
      cases hwhole
      cases hmark.symm.trans hmark'
      exact ⟨[], tokens, rfl, hrest⟩
    | cons d before =>
      obtain ⟨left, right, rfl, hright⟩ := ih (List.cons.inj hwhole).2
      exact ⟨mark' :: left, right, rfl, hright⟩
  | @name name whole tokens hname _ _ ih =>
    -- The mark is no character of the name, so it stands in the text behind the name.
    have hnot : c ∉ name := by
      intro hc
      obtain ⟨hpart, hdot⟩ := endsName_of_ofMark? hmark []
      exact (hname.part_or_dot_of_mem hc).elim hpart hdot
    obtain ⟨before', hbefore⟩ : ∃ before', before' ++ c :: text = whole := by
      rcases List.append_eq_append_iff.1 hwhole with ⟨middle, rfl, hmiddle⟩ | ⟨middle, rfl, hmiddle⟩
      · cases middle with
        | nil => exact ⟨[], hmiddle⟩
        | cons d middle =>
          cases hmiddle
          simp at hnot
      · exact ⟨middle, hmiddle.symm⟩
    obtain ⟨left, right, rfl, hright⟩ := ih hbefore
    exact ⟨_ :: left, right, rfl, hright⟩

end FunctionForge.TypeExpr
