import Mathlib.Tactic.ByContra
import FunctionForge.Proofs.Text.Boundary
import FunctionForge.Proofs.TypeExpr.Scan

/-!
# Tokens account for a text

Tokens account for a text where their spellings stand in it, only blanks are left over, and no name
could have been longer. The scanner finds such tokens, and the only ones that do not overlap. It
refuses a text only if there are none at all, overlapping or not: a name goes on up to a place that no
other name lies across, so the tokens that start at such places are enough.
-/

namespace FunctionForge.TypeExpr

open Text

/-! ### Tokens at their places -/

/-- The offset behind a token. -/
def Located.stop (t : Located) : Nat := t.offset + byteLength t.token.spelling

/-- Whether a byte is one of those that a token is written with. -/
def Located.Holds (t : Located) (place : Nat) : Prop := t.offset ≤ place ∧ place < t.stop

/-- Whether a byte of a text is one of a blank's. -/
def IsInBlank (source : String) (place : Nat) : Prop :=
  ∃ before c after, source.toList = before ++ c :: after ∧ isBlank c ∧
    byteLength before ≤ place ∧ place < byteLength before + c.utf8Size

/-- Tokens account for a text: in the order of their offsets, and with the end of the text last, each
is spelled by the bytes at its place, blanks make up all other bytes, and the names are as long as
they can be. -/
structure Accounts (source : String) (tokens : List Located) : Prop where
  increasing : tokens.Pairwise fun left right => left.offset < right.offset
  finish : ∃ others, tokens = others ++ [⟨.finish, size source⟩] ∧
    .finish ∉ others.map Located.token
  spelled : ∀ t ∈ tokens, slice source t.offset (byteLength t.token.spelling) =
    t.token.spelling.utf8Encode
  blank : ∀ place < size source, (∀ t ∈ tokens, ¬t.Holds place) → IsInBlank source place
  name : ∀ name offset, ⟨.name name, offset⟩ ∈ tokens → IsName name.toList ∧
    ∀ before after, source.toList = before ++ after → byteLength before = offset + size name →
      EndsName after

/-- Tokens that do not overlap. -/
def AreApart (tokens : List Located) : Prop :=
  tokens.Pairwise fun left right => left.stop ≤ right.offset

/-- Of tokens that do not overlap, only one holds a byte. -/
theorem AreApart.eq_of_holds {tokens : List Located} (hapart : AreApart tokens)
    {left right : Located} (hleft : left ∈ tokens) (hright : right ∈ tokens) {place : Nat}
    (hholdsLeft : left.Holds place) (hholdsRight : right.Holds place) : left = right := by
  obtain ⟨hlow, hhigh⟩ := hholdsLeft
  obtain ⟨hlow', hhigh'⟩ := hholdsRight
  obtain ⟨front, rest, rfl⟩ := List.append_of_mem hleft
  obtain ⟨-, hbehind, hbetween⟩ := List.pairwise_append.1 hapart
  rcases List.mem_append.1 hright with hfront | hrest
  · have hstop := hbetween right hfront left List.mem_cons_self
    omega
  · rcases List.mem_cons.1 hrest with rfl | hrest
    · rfl
    · have hstop := (List.pairwise_cons.1 hbehind).1 right hrest
      omega

/-! ### Spellings -/

theorem Located.stop_name (name : List Char) (offset : Nat) :
    stop ⟨.name (String.ofList name), offset⟩ = offset + byteLength name := by
  rw [Located.stop, Token.spelling, String.toList_ofList]

/-- A token is the end of the text, a mark, or a name. -/
theorem spelling_cases (token : Token) :
    token = .finish ∨ (∃ c, Token.ofMark? c = some token ∧ token.spelling = [c]) ∨
      ∃ name, token = .name name := by
  cases token with
  | name name => exact .inr (.inr ⟨name, rfl⟩)
  | opening => exact .inr (.inl ⟨'<', rfl, rfl⟩)
  | closing => exact .inr (.inl ⟨'>', rfl, rfl⟩)
  | comma => exact .inr (.inl ⟨',', rfl, rfl⟩)
  | question => exact .inr (.inl ⟨'?', rfl, rfl⟩)
  | star => exact .inr (.inl ⟨'*', rfl, rfl⟩)
  | finish => exact .inl rfl

/-- A place between characters that no name lies across. -/
def EndsBetween (before text : List Char) : Prop :=
  EndsName text ∨ ∀ c ∈ before.getLast?, EndsName [c]

theorem EndsBetween.concat {before : List Char} {c : Char} (h : EndsName [c]) (text : List Char) :
    EndsBetween (before ++ [c]) text := by
  refine .inr ?_
  intro d hd
  rw [List.getLast?_concat, Option.mem_some_iff] at hd
  exact hd ▸ h

theorem IsName.not_endsBetween {left right : List Char} (h : IsName (left ++ right))
    (hleft : left ≠ []) (hright : right ≠ []) (before after : List Char) :
    ¬EndsBetween (before ++ left) (right ++ after) := by
  have hgoesOn : ∀ c ∈ left ++ right, ∀ rest, ¬EndsName (c :: rest) := by
    intro c hc rest hends
    exact (h.part_or_dot_of_mem hc).elim hends.1 hends.2
  rintro (hends | hends)
  · obtain ⟨c, right, rfl⟩ := List.exists_cons_of_ne_nil hright
    exact hgoesOn c (by simp) _ hends
  · have hlast : left.getLast hleft ∈ (before ++ left).getLast? := by
      rw [List.getLast?_append, List.getLast?_eq_some_getLast hleft]
      rfl
    exact hgoesOn _ (List.mem_append_left _ (List.getLast_mem hleft)) [] (hends _ hlast)

/-! ### What the scanner finds accounts for the text -/

namespace Spelled

variable {offset : Nat} {text : List Char} {tokens : List Located}

theorem offset_le (h : Spelled offset text tokens) {t : Located} (ht : t ∈ tokens) :
    offset ≤ t.offset := by
  obtain ⟨before, after, -, hplace, -⟩ := h.exists_standing ht
  omega

/-- Tokens come one behind the other, and only the end of the text is written with no character. -/
theorem pairwise (h : Spelled offset text tokens) :
    tokens.Pairwise fun left right => left.offset < right.offset ∧ left.stop ≤ right.offset := by
  induction h with
  | finish offset => exact List.pairwise_singleton _ _
  | blank _ _ ih => exact ih
  | @mark offset c mark text tokens hmark htext ih =>
    apply List.Pairwise.cons ?_ ih
    intro t ht
    have hle := htext.offset_le ht
    have hpos := c.utf8Size_pos
    rw [Located.stop, spelling_of_ofMark? hmark, byteLength_cons, byteLength_nil]
    constructor
    · show offset < t.offset
      omega
    · exact hle
  | @name offset name text tokens hname _ htext ih =>
    apply List.Pairwise.cons ?_ ih
    intro t ht
    have hle := htext.offset_le ht
    obtain ⟨c, rest, rfl, -⟩ := hname.exists_cons
    have hpos := c.utf8Size_pos
    rw [Located.stop_name]
    refine ⟨?_, hle⟩
    rw [byteLength_cons] at hle
    show offset < t.offset
    omega

/-- A character that is no blank is one of a token's. -/
theorem exists_holds (h : Spelled offset text tokens) {before after : List Char} {c : Char}
    (htext : text = before ++ c :: after) (hc : ¬isBlank c) :
    ∃ t ∈ tokens, t.offset ≤ offset + byteLength before ∧
      offset + byteLength before + c.utf8Size ≤ t.stop := by
  induction h generalizing before with
  | finish offset => simp at htext
  | @blank offset d text tokens hblank _ ih =>
    cases before with
    | nil =>
      obtain ⟨rfl, -⟩ := List.cons.inj htext
      exact absurd hblank hc
    | cons e before =>
      obtain ⟨rfl, hrest⟩ := List.cons.inj htext
      rw [byteLength_cons, ← Nat.add_assoc]
      exact ih hrest
  | @mark offset d mark text tokens hmark _ ih =>
    cases before with
    | nil =>
      obtain ⟨rfl, -⟩ := List.cons.inj htext
      refine ⟨⟨mark, offset⟩, List.mem_cons_self, Nat.le_refl _, ?_⟩
      rw [Located.stop, spelling_of_ofMark? hmark]
      exact Nat.le_refl _
    | cons e before =>
      obtain ⟨rfl, hrest⟩ := List.cons.inj htext
      obtain ⟨t, ht, hholds⟩ := ih hrest
      rw [byteLength_cons, ← Nat.add_assoc]
      exact ⟨t, List.mem_cons_of_mem _ ht, hholds⟩
  | @name offset name text tokens _ _ _ ih =>
    rcases List.append_eq_append_iff.1 htext with ⟨middle, rfl, hrest⟩ | ⟨middle, rfl, hrest⟩
    · obtain ⟨t, ht, hholds⟩ := ih hrest
      rw [byteLength_append, ← Nat.add_assoc]
      exact ⟨t, List.mem_cons_of_mem _ ht, hholds⟩
    · cases middle with
      | nil =>
        obtain ⟨t, ht, hholds⟩ := ih (show text = [] ++ c :: after from hrest.symm)
        exact ⟨t, List.mem_cons_of_mem _ ht, by simpa using hholds⟩
      | cons d middle =>
        obtain ⟨rfl, -⟩ := List.cons.inj hrest
        refine ⟨_, List.mem_cons_self, ?_, ?_⟩
        · exact Nat.le_add_right _ _
        · rw [Located.stop_name, byteLength_append, byteLength_cons]
          omega

end Spelled

theorem Spelled.accounts {source : String} {tokens : List Located}
    (h : Spelled 0 source.toList tokens) : Accounts source tokens where
  increasing := h.pairwise.imp And.left
  finish := by
    obtain ⟨others, htokens, hothers⟩ := h.eq_concat
    rw [Nat.zero_add] at htokens
    exact ⟨others, htokens, hothers⟩
  spelled := by
    intro t ht
    obtain ⟨before, after, htext, hplace, -⟩ := h.exists_standing ht
    rw [hplace, Nat.zero_add]
    exact slice_of_append htext
  blank := by
    intro place hplace hnone
    obtain ⟨before, c, after, htext, hlow, hhigh⟩ := exists_character hplace
    refine ⟨before, c, after, htext, ?_, hlow, hhigh⟩
    by_contra hc
    obtain ⟨t, ht, hstart, hstop⟩ := h.exists_holds htext hc
    apply hnone t ht
    constructor <;> omega
  name := by
    intro name offset hmem
    obtain ⟨before, after, htext, hplace, hname⟩ := h.exists_standing hmem
    obtain ⟨hisName, hends⟩ := hname name rfl
    refine ⟨hisName, ?_⟩
    intro before' after' htext' hlength
    have hfront : byteLength (before ++ name.toList) = byteLength before' := by
      rw [byteLength_append, hlength]
      simpa [size] using hplace.symm
    rw [htext] at htext'
    rw [← (append_inj_of_byteLength htext' hfront).2]
    exact hends

/-! ### Where tokens account for a text, the scanner finds some of them -/

namespace Accounts

variable {source : String} {tokens : List Located}

/-- The characters of a token stand where it holds a byte. -/
theorem exists_standing (h : Accounts source tokens) {t : Located} (ht : t ∈ tokens) {place : Nat}
    (hplace : t.Holds place) : ∃ before after,
      source.toList = before ++ t.token.spelling ++ after ∧ byteLength before = t.offset := by
  have hspelling : t.token.spelling ≠ [] := by
    intro hnil
    obtain ⟨hlow, hhigh⟩ := hplace
    rw [Located.stop, hnil, byteLength_nil] at hhigh
    omega
  exact (slice_eq_iff hspelling).1 (h.spelled t ht)

/-- A token that holds the byte behind a place that no name lies across starts there. -/
theorem starts_of_holds (h : Accounts source tokens) {t : Located} (ht : t ∈ tokens)
    {before text : List Char} (htext : source.toList = before ++ text)
    (hends : EndsBetween before text) (hholds : t.Holds (byteLength before)) :
    t.offset = byteLength before ∧ ∃ after, text = t.token.spelling ++ after := by
  obtain ⟨front, after, hsource, hfront⟩ := h.exists_standing ht hholds
  obtain ⟨hlow, hhigh⟩ := hholds
  rw [Located.stop] at hhigh
  have hsplit : front ++ (t.token.spelling ++ after) = before ++ text := by
    rw [← htext, hsource, List.append_assoc]
  by_cases hstart : t.offset = byteLength before
  · exact ⟨hstart, after, (append_inj_of_byteLength hsplit (hfront.trans hstart)).2.symm⟩
  · -- Otherwise the place is inside the token, which is then too long for a mark.
    exfalso
    obtain ⟨left, right, hspelling, hleft, hright, rfl, rfl⟩ :=
      exists_split_of_byteLength hsplit (by omega) (by omega)
    obtain ⟨token, offset⟩ := t
    rcases spelling_cases token with rfl | ⟨c, -, hmark⟩ | ⟨name, rfl⟩
    · exact hleft (List.append_eq_nil_iff.1 hspelling.symm).1
    · have hlength := congrArg List.length (hmark.symm.trans hspelling)
      have hleftLength := List.length_pos_iff.2 hleft
      have hrightLength := List.length_pos_iff.2 hright
      rw [List.length_append, List.length_singleton] at hlength
      omega
    · have hname : IsName name.toList := (h.name name offset ht).1
      rw [show name.toList = left ++ right from hspelling] at hname
      exact hname.not_endsBetween hleft hright front after hends

/-- A character that is no blank is one of a token's. -/
theorem exists_holds (h : Accounts source tokens) {before rest : List Char} {c : Char}
    (htext : source.toList = before ++ c :: rest) (hc : ¬isBlank c) :
    ∃ t ∈ tokens, t.Holds (byteLength before) := by
  by_contra hnone
  have hplace : byteLength before < size source := by
    have hpos := c.utf8Size_pos
    rw [size, htext, byteLength_append, byteLength_cons]
    omega
  obtain ⟨front, d, after, hsource, hblank, hlow, hhigh⟩ :=
    h.blank _ hplace fun t ht hholds => hnone ⟨t, ht, hholds⟩
  have hboundary : IsBoundary source (byteLength before) := isBoundary_iff.2 ⟨_, _, htext, rfl⟩
  have hlength : byteLength front = byteLength before := by
    by_contra hne
    exact not_isBoundary_inside hsource (by omega) hhigh hboundary
  rw [htext] at hsource
  obtain ⟨rfl, -⟩ := List.cons.inj (append_inj_of_byteLength hsource hlength.symm).2
  exact hc hblank

/-- Behind a place that no name lies across there is a blank or a token, and behind that another such
place. -/
theorem exists_part (h : Accounts source tokens) {before rest : List Char} {c : Char}
    (htext : source.toList = before ++ c :: rest) (hends : EndsBetween before (c :: rest)) :
    ∃ part after, c :: rest = part ++ after ∧ part ≠ [] ∧ EndsBetween (before ++ part) after ∧
      ∀ located, Spelled (byteLength before + byteLength part) after located →
        (∀ t ∈ located, t ∈ tokens) →
        ∃ whole, Spelled (byteLength before) (part ++ after) whole ∧ ∀ t ∈ whole, t ∈ tokens := by
  by_cases hblank : isBlank c
  · refine ⟨[c], rest, rfl, List.cons_ne_nil c [], .concat (endsName_of_isBlank hblank []) rest, ?_⟩
    intro located hspelled hmem
    exact ⟨located, .blank hblank hspelled, hmem⟩
  · obtain ⟨t, ht, hholds⟩ := h.exists_holds htext hblank
    obtain ⟨hstart, after, hafter⟩ := h.starts_of_holds ht htext hends hholds
    obtain ⟨token, offset⟩ := t
    obtain rfl : offset = byteLength before := hstart
    rcases spelling_cases token with rfl | ⟨d, hmark, hspelling⟩ | ⟨name, rfl⟩
    · exact absurd (Nat.lt_of_lt_of_le hholds.2 hholds.1) (Nat.lt_irrefl _)
    · refine ⟨[d], after, by rw [hafter, hspelling], List.cons_ne_nil d [],
        .concat (endsName_of_ofMark? hmark []) after, ?_⟩
      intro located hspelled hmem
      exact ⟨_, .mark hmark hspelled, List.forall_mem_cons.2 ⟨ht, hmem⟩⟩
    · obtain ⟨hname, hmaximal⟩ := h.name name _ ht
      have hendsAfter : EndsName after := by
        apply hmaximal (before ++ name.toList) after
        · rw [htext, hafter, List.append_assoc]
          rfl
        · rw [byteLength_append, size]
      obtain ⟨first, tail, hcons, -⟩ := hname.exists_cons
      refine ⟨name.toList, after, hafter, by simp [hcons], .inl hendsAfter, ?_⟩
      intro located hspelled hmem
      have hwhole := Spelled.name hname hendsAfter hspelled
      rw [String.ofList_toList] at hwhole
      exact ⟨_, hwhole, List.forall_mem_cons.2 ⟨ht, hmem⟩⟩

/-- Behind a place that no name lies across, the text is made of some of the tokens. -/
theorem exists_spelled (h : Accounts source tokens) {before text : List Char}
    (htext : source.toList = before ++ text) (hends : EndsBetween before text) :
    ∃ located, Spelled (byteLength before) text located ∧ ∀ t ∈ located, t ∈ tokens := by
  induction hlength : text.length using Nat.strongRecOn generalizing before text with
  | ind n ih =>
    cases text with
    | nil =>
      obtain ⟨others, htokens, -⟩ := h.finish
      refine ⟨[⟨.finish, byteLength before⟩], .finish _, ?_⟩
      intro t ht
      rw [List.mem_singleton.1 ht, htokens, size, htext, List.append_nil]
      exact List.mem_append_right _ List.mem_cons_self
    | cons c rest =>
      obtain ⟨part, after, hpart, hne, hendsAfter, hgoesOn⟩ := h.exists_part htext hends
      have hshorter : after.length < n := by
        have hpos := List.length_pos_iff.2 hne
        rw [← hlength, hpart, List.length_append]
        omega
      rw [hpart, ← List.append_assoc] at htext
      obtain ⟨located, hspelled, hmem⟩ := ih _ hshorter htext hendsAfter rfl
      rw [byteLength_append] at hspelled
      rw [hpart]
      exact hgoesOn located hspelled hmem

theorem exists_scan (h : Accounts source tokens) :
    ∃ located, scan 0 source.toList = .ok located ∧ ∀ t ∈ located, t ∈ tokens := by
  have hends : EndsBetween [] source.toList := .inr (by simp)
  obtain ⟨located, hspelled, hmem⟩ := h.exists_spelled (List.nil_append _).symm hends
  exact ⟨located, scan_eq_ok_iff.2 hspelled, hmem⟩

theorem nodup (h : Accounts source tokens) : tokens.Nodup := by
  apply h.increasing.imp
  rintro left right hlt rfl
  exact Nat.lt_irrefl _ hlt

/-- Every token but the end of the text starts with a character that is no blank. -/
theorem exists_first (h : Accounts source tokens) {t : Located} (ht : t ∈ tokens)
    (hfinish : t.token ≠ .finish) : ∃ c rest, t.token.spelling = c :: rest ∧ ¬isBlank c := by
  obtain ⟨token, offset⟩ := t
  rcases spelling_cases token with rfl | ⟨c, hmark, hspelling⟩ | ⟨name, rfl⟩
  · exact absurd rfl hfinish
  · refine ⟨c, [], hspelling, ?_⟩
    intro hblank
    rw [ofMark?_eq_none_of_isBlank hblank] at hmark
    cases hmark
  · obtain ⟨c, rest, hcons, hstart⟩ := (h.name name offset ht).1.exists_cons
    refine ⟨c, rest, hcons, ?_⟩
    rw [(not_blank_or_mark_of_isSegmentStart hstart).1]
    exact Bool.false_ne_true

/-- Tokens that do not overlap are all found, if what is found is among them. -/
theorem eq_of_spelled (h : Accounts source tokens) (hapart : AreApart tokens)
    {located : List Located} (hspelled : Spelled 0 source.toList located)
    (hmem : ∀ t ∈ located, t ∈ tokens) : located = tokens := by
  have hlocated := hspelled.accounts
  have hfinish : ⟨.finish, size source⟩ ∈ located := by
    obtain ⟨others, rfl, -⟩ := hlocated.finish
    exact List.mem_append_right others List.mem_cons_self
  have hall : ∀ t ∈ tokens, t ∈ located := by
    intro t ht
    by_cases hlast : t.token = .finish
    · obtain ⟨others, rfl, hothers⟩ := h.finish
      rcases List.mem_append.1 ht with hother | hend
      · exact absurd (hlast ▸ List.mem_map_of_mem hother) hothers
      · rw [List.mem_singleton.1 hend]
        exact hfinish
    · obtain ⟨c, rest, hspelling, hc⟩ := h.exists_first ht hlast
      have hholds : t.Holds t.offset := by
        have hpos := c.utf8Size_pos
        rw [Located.Holds, Located.stop, hspelling, byteLength_cons]
        omega
      obtain ⟨before, after, htext, hplace⟩ := h.exists_standing ht hholds
      rw [hspelling, List.append_assoc, List.cons_append] at htext
      obtain ⟨u, hu, hstart, hstop⟩ := hspelled.exists_holds htext hc
      have hagain : u.Holds t.offset := by
        have hpos := c.utf8Size_pos
        constructor <;> omega
      rw [hapart.eq_of_holds ht (hmem u hu) hholds hagain]
      exact hu
  have hperm : located.Perm tokens :=
    (List.perm_ext_iff_of_nodup hlocated.nodup h.nodup).2 fun t => ⟨hmem t, hall t⟩
  apply hperm.eq_of_pairwise ?_ hlocated.increasing h.increasing
  intro left right _ _ hlt hgt
  omega

end Accounts

/-- The scanner finds the tokens that account for a text without overlapping, and refuses the text
exactly if no tokens account for it. -/
theorem scan_accounts_for_text (source : String) :
    (∀ tokens, scan 0 source.toList = .ok tokens ↔ Accounts source tokens ∧ AreApart tokens) ∧
    ((∃ e, scan 0 source.toList = .error e) ↔ ¬∃ tokens, Accounts source tokens) := by
  constructor
  · intro tokens
    constructor
    · intro hscan
      have hspelled := scan_eq_ok_iff.1 hscan
      exact ⟨hspelled.accounts, hspelled.pairwise.imp And.right⟩
    · rintro ⟨haccounts, hapart⟩
      obtain ⟨located, hscan, hmem⟩ := haccounts.exists_scan
      rw [hscan, haccounts.eq_of_spelled hapart (scan_eq_ok_iff.1 hscan) hmem]
  · constructor
    · rintro ⟨e, hfails⟩ ⟨tokens, haccounts⟩
      obtain ⟨located, hscan, -⟩ := haccounts.exists_scan
      rw [hscan] at hfails
      cases hfails
    · intro hnone
      cases hscan : scan 0 source.toList with
      | error e => exact ⟨e, rfl⟩
      | ok tokens => exact absurd ⟨tokens, (scan_eq_ok_iff.1 hscan).accounts⟩ hnone

end FunctionForge.TypeExpr
