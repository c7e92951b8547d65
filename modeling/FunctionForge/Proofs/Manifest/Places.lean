import Mathlib.Data.List.Induction
import FunctionForge.Manifest.Error
import FunctionForge.Proofs.Manifest.Name
import FunctionForge.Proofs.Text.Boundary

/-!
# What the searches in a manifest find

A search passes over a text once and skips what it has found, so all that it finds is there. A place
that starts a line is found as well if the pattern stays on one line: another place of the pattern
that lies across this one would have the line break in it. So all places of a name are found that start
a line, whatever the name is, as long as it has no line break itself.
-/

namespace FunctionForge.Span

open Text

/-- A place covers a part of a text: the part starts at its offset and is as long as it. -/
def Covers (text : String) (span : Span) (part : List Char) : Prop :=
  ∃ before after, text.toList = before ++ part ++ after ∧ byteLength before = span.offset ∧
    byteLength part = span.length

theorem Covers.isBoundary {text : String} {span : Span} {part : List Char}
    (h : Covers text span part) :
    IsBoundary text span.offset ∧ IsBoundary text (span.offset + span.length) := by
  obtain ⟨before, after, htext, hoffset, hlength⟩ := h
  constructor
  · rw [isBoundary_iff]
    exact ⟨before, part ++ after, by rw [htext, List.append_assoc], hoffset⟩
  · rw [isBoundary_iff]
    refine ⟨before ++ part, after, htext, ?_⟩
    rw [byteLength_append, hoffset, hlength]

theorem Covers.le_size {text : String} {span : Span} {part : List Char}
    (h : Covers text span part) : span.offset + span.length ≤ size text :=
  h.isBoundary.2.le_size

/-! ### All that is found is there -/

variable {pattern : List Char}

theorem exists_of_mem_occurrencesFrom {offset covered : Nat} {blank : Bool} {text : List Char}
    {place : Occurrence} (h : place ∈ occurrencesFrom pattern offset blank covered text) :
    ∃ before after, text = before ++ pattern ++ after ∧
      place = ⟨offset + byteLength before, before.foldl stillBlank blank⟩ := by
  induction text generalizing offset blank covered with
  | nil => simp [occurrencesFrom] at h
  | cons c rest ih =>
    rw [occurrencesFrom, List.mem_append] at h
    rcases h with h | h
    · split at h
      · next hfound =>
        rw [Bool.and_eq_true, List.isPrefixOf_iff_prefix] at hfound
        obtain ⟨after, hafter⟩ := hfound.2
        obtain rfl := List.mem_singleton.1 h
        exact ⟨[], after, hafter.symm, rfl⟩
      · exact absurd h List.not_mem_nil
    · obtain ⟨before, after, rfl, rfl⟩ := ih h
      refine ⟨c :: before, after, rfl, ?_⟩
      rw [byteLength_cons, List.foldl_cons, Nat.add_assoc]

/-- Later places have greater offsets. -/
theorem occurrencesFrom_pairwise (offset covered : Nat) (blank : Bool) (text : List Char) :
    (occurrencesFrom pattern offset blank covered text).Pairwise fun left right =>
      left.offset < right.offset := by
  induction text generalizing offset blank covered with
  | nil => exact .nil
  | cons c rest ih =>
    rw [occurrencesFrom, List.pairwise_append]
    refine ⟨?_, ih _ _ _, ?_⟩
    · split <;> simp
    · intro left hleft right hright
      obtain ⟨before, after, -, rfl⟩ := exists_of_mem_occurrencesFrom hright
      have hpos := c.utf8Size_pos
      split at hleft
      · obtain rfl := List.mem_singleton.1 hleft
        show offset < offset + c.utf8Size + byteLength before
        omega
      · exact absurd hleft List.not_mem_nil

/-! ### All that starts a line is found -/

/-- A pattern that stays on one line and does not start with a blank. -/
def StaysOnLine (pattern : List Char) : Prop :=
  '\n' ∉ pattern ∧ ∃ first rest, pattern = first :: rest ∧ first ≠ ' ' ∧ first ≠ '\t'

theorem StaysOnLine.ne_nil (h : StaysOnLine pattern) : pattern ≠ [] := by
  obtain ⟨-, first, rest, rfl, -⟩ := h
  exact List.cons_ne_nil first rest

theorem foldl_stillBlank_false {text : List Char} (h : '\n' ∉ text) :
    text.foldl stillBlank false = false := by
  induction text with
  | nil => rfl
  | cons c rest ih =>
    rw [List.mem_cons, not_or] at h
    have hc : stillBlank false c = false := by simp [stillBlank, Ne.symm h.1]
    rw [List.foldl_cons, hc]
    exact ih h.2

/-- Between a place of such a pattern and the start of a line behind it there is room for the pattern. -/
theorem StaysOnLine.prefix_of_blank (h : StaysOnLine pattern) {before after rest : List Char}
    {blank : Bool} (hplaces : pattern ++ rest = before ++ pattern ++ after) (hbefore : before ≠ [])
    (hblank : before.foldl stillBlank blank = true) : pattern <+: before := by
  obtain ⟨hline, first, tail, rfl, hspace, htab⟩ := h
  rw [List.append_assoc before] at hplaces
  rcases List.append_eq_append_iff.1 hplaces with ⟨middle, hmiddle, -⟩ | ⟨shared, hpattern, -⟩
  · exact ⟨middle, hmiddle.symm⟩
  · -- What is in front of the line is the start of the pattern, which is neither blank nor broken.
    obtain ⟨c, before, rfl⟩ := List.exists_cons_of_ne_nil hbefore
    obtain ⟨rfl, htail⟩ := List.cons.inj hpattern
    rw [List.mem_cons, htail, List.append_eq, List.mem_append, not_or, not_or] at hline
    have hfirst : stillBlank blank first = false := by
      simp [stillBlank, Ne.symm hline.1, hspace, htab]
    rw [List.foldl_cons, hfirst, foldl_stillBlank_false hline.2.1] at hblank
    cases hblank

theorem occurrencesFrom_covered (offset : Nat) (blank : Bool) (skipped rest : List Char) :
    occurrencesFrom pattern offset blank skipped.length (skipped ++ rest) =
      occurrencesFrom pattern (offset + byteLength skipped) (skipped.foldl stillBlank blank) 0
        rest := by
  induction skipped generalizing offset blank with
  | nil => rfl
  | cons c skipped ih =>
    rw [List.cons_append, occurrencesFrom, List.length_cons, byteLength_cons, List.foldl_cons,
      ← Nat.add_assoc, ← ih]
    rfl

theorem occurrencesFrom_append (hpattern : pattern ≠ []) (offset : Nat) (blank : Bool)
    (rest : List Char) :
    occurrencesFrom pattern offset blank 0 (pattern ++ rest) =
      ⟨offset, blank⟩ :: occurrencesFrom pattern (offset + byteLength pattern)
        (pattern.foldl stillBlank blank) 0 rest := by
  obtain ⟨c, tail, rfl⟩ := List.exists_cons_of_ne_nil hpattern
  have hfound : (c :: tail).isPrefixOf (c :: (tail ++ rest)) = true :=
    List.isPrefixOf_iff_prefix.2 ⟨rest, rfl⟩
  rw [List.cons_append, occurrencesFrom, hfound, byteLength_cons, List.foldl_cons,
    ← Nat.add_assoc, ← occurrencesFrom_covered]
  rfl

theorem occurrencesFrom_cons {c : Char} {rest : List Char} (h : ¬pattern <+: c :: rest)
    (offset : Nat) (blank : Bool) :
    occurrencesFrom pattern offset blank 0 (c :: rest) =
      occurrencesFrom pattern (offset + c.utf8Size) (stillBlank blank c) 0 rest := by
  rw [← List.isPrefixOf_iff_prefix, Bool.not_eq_true] at h
  rw [occurrencesFrom, h]
  rfl

/-- A search for a pattern that stays on one line finds it wherever it starts a line. -/
theorem mem_occurrencesFrom (hpattern : StaysOnLine pattern) (offset : Nat) {blank : Bool}
    {before : List Char} (hblank : before.foldl stillBlank blank = true) (after : List Char) :
    ⟨offset + byteLength before, true⟩ ∈
      occurrencesFrom pattern offset blank 0 (before ++ pattern ++ after) := by
  have hne := hpattern.ne_nil
  induction hlength : before.length using Nat.strongRecOn generalizing offset blank before with
  | ind n ih =>
    cases before with
    | nil =>
      obtain rfl : blank = true := hblank
      rw [List.nil_append, occurrencesFrom_append hne]
      exact List.mem_cons_self
    | cons c tail =>
      by_cases hprefix : pattern <+: c :: (tail ++ pattern ++ after)
      · -- The pattern stands in front as well, so it is all in front of the other place.
        obtain ⟨rest, hrest⟩ := hprefix
        obtain ⟨middle, hmiddle⟩ :=
          hpattern.prefix_of_blank hrest (List.cons_ne_nil c tail) hblank
        rw [← hmiddle, List.foldl_append] at hblank
        rw [← hmiddle] at hlength ⊢
        have hshorter : middle.length < n := by
          have hpos := List.length_pos_iff.2 hne
          rw [List.length_append] at hlength
          omega
        rw [List.append_assoc, List.append_assoc, occurrencesFrom_append hne, byteLength_append,
          ← Nat.add_assoc, ← List.append_assoc]
        exact List.mem_cons_of_mem _ (ih _ hshorter _ hblank rfl)
      · rw [List.foldl_cons] at hblank
        have hshorter : tail.length < n := by
          rw [List.length_cons] at hlength
          omega
        rw [List.cons_append, List.cons_append, occurrencesFrom_cons hprefix, byteLength_cons,
          ← Nat.add_assoc]
        exact ih _ hshorter _ hblank rfl

theorem mem_quotes_iff {quote : Char} : quote ∈ quotes ↔ quote = '"' ∨ quote = '\'' := by
  simp [quotes]

theorem staysOnLine_nameKey {quote : Char} {name : String} (hquote : quote ∈ quotes)
    (hname : '\n' ∉ name.toList) : StaysOnLine (nameKey ++ quoted quote name) := by
  refine ⟨?_, 'n', _, rfl, by decide, by decide⟩
  have hbreak : '\n' ≠ quote := by
    rintro rfl
    exact absurd hquote (by decide)
  rw [List.mem_append, quoted, List.mem_append, List.mem_cons, List.mem_singleton]
  rintro (hkey | (hopening | hmem) | hclosing)
  · exact absurd hkey (by decide)
  · exact hbreak hopening
  · exact hname hmem
  · exact hbreak hclosing

/-! ### Lines that start with a name -/

/-- A text behind which a line has only blanks so far. -/
def StartsLine (before : List Char) : Prop :=
  ∃ above indent, before = above ++ indent ∧ (above = [] ∨ above.getLast? = some '\n') ∧
    ∀ c ∈ indent, c = ' ' ∨ c = '\t'

theorem stillBlank_iff {blank : Bool} {c : Char} :
    stillBlank blank c = true ↔ c = '\n' ∨ blank = true ∧ (c = ' ' ∨ c = '\t') := by
  simp [stillBlank]

theorem foldl_stillBlank_iff (before : List Char) :
    before.foldl stillBlank true = true ↔ StartsLine before := by
  induction before using List.reverseRecOn with
  | nil => simpa using ⟨[], [], rfl, .inl rfl, by simp⟩
  | append_singleton before c ih =>
    rw [List.foldl_append, List.foldl_cons, List.foldl_nil, stillBlank_iff, ih]
    constructor
    · rintro (rfl | ⟨⟨above, indent, rfl, habove, hindent⟩, hc⟩)
      · exact ⟨before ++ ['\n'], [], (List.append_nil _).symm, .inr List.getLast?_concat, by simp⟩
      · refine ⟨above, indent ++ [c], List.append_assoc _ _ _, habove, ?_⟩
        intro d hd
        rcases List.mem_append.1 hd with hd | hd
        · exact hindent d hd
        · rw [List.mem_singleton.1 hd]
          exact hc
    · rintro ⟨above, indent, hbefore, habove, hindent⟩
      cases indent using List.reverseRecOn with
      | nil =>
        rw [List.append_nil] at hbefore
        subst hbefore
        exact .inl (by simpa using habove)
      | append_singleton indent d =>
        rw [← List.append_assoc] at hbefore
        obtain ⟨rfl, hc⟩ := List.append_inj' hbefore rfl
        obtain rfl : c = d := by simpa using hc
        have hindent' : ∀ e ∈ indent, e = ' ' ∨ e = '\t' :=
          fun e he => hindent e (List.mem_append_left _ he)
        exact .inr ⟨⟨above, indent, rfl, habove, hindent'⟩, hindent c (by simp)⟩

/-- A place of a name: behind the key and a quote where they start a line, up to the same quote. -/
def IsNamePlace (text name : String) (span : Span) : Prop :=
  ∃ before quote after, quote ∈ quotes ∧ StartsLine before ∧
    text.toList = before ++ (nameKey ++ quoted quote name) ++ after ∧
    span = ⟨byteLength before + byteLength nameKey + 1, size name⟩

theorem utf8Size_of_mem_quotes {quote : Char} (h : quote ∈ quotes) : quote.utf8Size = 1 := by
  rcases mem_quotes_iff.1 h with rfl | rfl <;> rfl

theorem IsNamePlace.covers {text name : String} {span : Span} (h : IsNamePlace text name span) :
    Covers text span name.toList := by
  obtain ⟨before, quote, after, hquote, -, htext, rfl⟩ := h
  refine ⟨before ++ nameKey ++ [quote], quote :: after, by simp [htext, quoted], ?_, rfl⟩
  simp [utf8Size_of_mem_quotes hquote, Nat.add_assoc]

theorem exists_of_mem_namesIn {text name : String} {quote : Char} {span : Span}
    (h : span ∈ namesIn text name quote) :
    ∃ before after, StartsLine before ∧
      text.toList = before ++ (nameKey ++ quoted quote name) ++ after ∧
      span = ⟨byteLength before + byteLength nameKey + quote.utf8Size, size name⟩ := by
  obtain ⟨place, hplace, rfl⟩ := List.mem_map.1 h
  obtain ⟨hplace, hstarts⟩ := List.mem_filter.1 hplace
  obtain ⟨before, after, htext, rfl⟩ := exists_of_mem_occurrencesFrom hplace
  exact ⟨before, after, (foldl_stillBlank_iff before).1 hstarts, htext, by rw [Nat.zero_add]⟩

theorem mem_namesIn {text name : String} {quote : Char} {before after : List Char}
    (hquote : quote ∈ quotes) (hname : '\n' ∉ name.toList) (hstarts : StartsLine before)
    (htext : text.toList = before ++ (nameKey ++ quoted quote name) ++ after) :
    ⟨byteLength before + byteLength nameKey + quote.utf8Size, size name⟩ ∈
      namesIn text name quote := by
  have hplace := mem_occurrencesFrom (staysOnLine_nameKey hquote hname) 0
    ((foldl_stillBlank_iff before).2 hstarts) after
  rw [← htext, Nat.zero_add] at hplace
  exact List.mem_map.2 ⟨_, List.mem_filter.2 ⟨hplace, rfl⟩, rfl⟩

theorem mem_names {text name : String} {span : Span} :
    span ∈ names text name ↔ span ∈ namesIn text name '"' ∨ span ∈ namesIn text name '\'' :=
  List.mem_merge

/-- In a text without single quotes all names are in double quotes. -/
theorem names_of_not_mem {text : String} (name : String) (h : '\'' ∉ text.toList) :
    names text name = namesIn text name '"' := by
  have hnone : namesIn text name '\'' = [] := by
    rw [List.eq_nil_iff_forall_not_mem]
    intro span hspan
    obtain ⟨before, after, -, htext, -⟩ := exists_of_mem_namesIn hspan
    apply h
    rw [htext, quoted]
    simp
  rw [names, hnone, List.merge_right]

theorem isNamePlace_of_mem_names {text name : String} {span : Span} (h : span ∈ names text name) :
    IsNamePlace text name span := by
  rcases mem_names.1 h with h | h
  · obtain ⟨before, after, hstarts, htext, rfl⟩ := exists_of_mem_namesIn h
    exact ⟨before, '"', after, by decide, hstarts, htext, rfl⟩
  · obtain ⟨before, after, hstarts, htext, rfl⟩ := exists_of_mem_namesIn h
    exact ⟨before, '\'', after, by decide, hstarts, htext, rfl⟩

/-- The places that are found for a name without a line break are those that there are. -/
theorem mem_names_iff_of_line {text name : String} {span : Span} (hname : '\n' ∉ name.toList) :
    span ∈ names text name ↔ IsNamePlace text name span := by
  refine ⟨isNamePlace_of_mem_names, ?_⟩
  rintro ⟨before, quote, after, hquote, hstarts, htext, rfl⟩
  have hmem := mem_namesIn hquote hname hstarts htext
  rw [utf8Size_of_mem_quotes hquote] at hmem
  rw [mem_names]
  rcases mem_quotes_iff.1 hquote with rfl | rfl
  · exact .inl hmem
  · exact .inr hmem

theorem mem_names_iff {text name : String} {span : Span} (hname : Name.IsIdentifier name.toList) :
    span ∈ names text name ↔ IsNamePlace text name span :=
  mem_names_iff_of_line hname.newline_not_mem

theorem namesIn_pairwise (text name : String) (quote : Char) :
    (namesIn text name quote).Pairwise fun left right => left.offset < right.offset := by
  have hplaces : (occurrences text (nameKey ++ quoted quote name)).Pairwise fun left right =>
      left.offset < right.offset := occurrencesFrom_pairwise 0 0 true text.toList
  rw [namesIn, List.pairwise_map]
  apply (hplaces.filter _).imp
  intro left right h
  show left.offset + byteLength nameKey + quote.utf8Size <
    right.offset + byteLength nameKey + quote.utf8Size
  omega

/-- No name starts at one place in both kinds of quotes. -/
theorem offset_ne_of_mem_namesIn {text name : String} {left right : Span}
    (hleft : left ∈ namesIn text name '"') (hright : right ∈ namesIn text name '\'') :
    left.offset ≠ right.offset := by
  obtain ⟨before, after, -, htext, rfl⟩ := exists_of_mem_namesIn hleft
  obtain ⟨before', after', -, htext', rfl⟩ := exists_of_mem_namesIn hright
  intro h
  have hsize : '"'.utf8Size = '\''.utf8Size := rfl
  have hlength : byteLength before = byteLength before' := by
    have hoffset : byteLength before + byteLength nameKey + '"'.utf8Size =
      byteLength before' + byteLength nameKey + '\''.utf8Size := h
    omega
  rw [htext, List.append_assoc, List.append_assoc before'] at htext'
  have hrest := (append_inj_of_byteLength htext' hlength).2
  simp [quoted] at hrest

/-- The places of a name are told from left to right, each one once. -/
theorem names_pairwise (text name : String) :
    (names text name).Pairwise fun left right => left.offset < right.offset := by
  let le (left right : Span) : Bool := left.offset ≤ right.offset
  have hin : ∀ quote, (namesIn text name quote).Pairwise fun left right => le left right := by
    intro quote
    apply (namesIn_pairwise text name quote).imp
    intro left right h
    exact decide_eq_true (Nat.le_of_lt h)
  have hsorted : (names text name).Pairwise fun left right => le left right := by
    apply List.pairwise_merge ?_ ?_ _ _ (hin '"') (hin '\'')
    · intro a b c hab hbc
      exact decide_eq_true (Nat.le_trans (of_decide_eq_true hab) (of_decide_eq_true hbc))
    · intro a b
      simpa [le] using Nat.le_total a.offset b.offset
  have hdistinct : (names text name).Pairwise fun left right => left.offset ≠ right.offset := by
    rw [names, (List.merge_perm_append _).pairwise_iff fun h => h.symm, List.pairwise_append]
    have hne : ∀ quote, (namesIn text name quote).Pairwise fun left right =>
        left.offset ≠ right.offset := by
      intro quote
      exact (namesIn_pairwise text name quote).imp fun h => Nat.ne_of_lt h
    exact ⟨hne _, hne _, fun left hleft right hright => offset_ne_of_mem_namesIn hleft hright⟩
  apply hsorted.imp₂ ?_ hdistinct
  intro left right hle hne
  have hoffset : left.offset ≤ right.offset := of_decide_eq_true hle
  omega

/-- Whether a name is given at a byte of a text: the key and the name in quotes stand there, and they
start a line. -/
def IsGivenAt (text name : String) (place : Nat) : Prop :=
  ∃ before quote after, quote ∈ quotes ∧ StartsLine before ∧ byteLength before = place ∧
    text.toList = before ++ ("name = ".toList ++ quote :: (name.toList ++ [quote])) ++ after

theorem isNamePlace_iff {text name : String} {span : Span} :
    IsNamePlace text name span ↔
      ∃ place, IsGivenAt text name place ∧ span = ⟨place + 8, size name⟩ := by
  have hkey : byteLength nameKey + 1 = 8 := rfl
  constructor
  · rintro ⟨before, quote, after, hquote, hstarts, htext, rfl⟩
    refine ⟨byteLength before, ⟨before, quote, after, hquote, hstarts, rfl, htext⟩, ?_⟩
    rw [Nat.add_assoc, hkey]
  · rintro ⟨place, ⟨before, quote, after, hquote, hstarts, rfl, htext⟩, rfl⟩
    refine ⟨before, quote, after, hquote, hstarts, htext, ?_⟩
    rw [Nat.add_assoc, hkey]

theorem Covers.slice_eq {text : String} {span : Span} {part : List Char}
    (h : Covers text span part) : slice text span.offset span.length = part.utf8Encode := by
  obtain ⟨before, after, htext, hoffset, hlength⟩ := h
  rw [← hoffset, ← hlength]
  exact slice_of_append htext

/-- The search for a name that has no line break, such as an identifier, finds each place once, from
left to right, at which the name is given. What it finds has the bytes of the name. -/
theorem names_are_where_given {text name : String} (hname : '\n' ∉ name.toList) :
    ((names text name).Pairwise fun left right => left.offset < right.offset) ∧
    (names text name).Nodup ∧
    (∀ span, span ∈ names text name ↔
      ∃ place, IsGivenAt text name place ∧ span = ⟨place + 8, size name⟩) ∧
    ∀ span ∈ names text name, slice text span.offset span.length = name.toByteArray := by
  have hsorted := names_pairwise text name
  refine ⟨hsorted, ?_, ?_, ?_⟩
  · apply hsorted.imp
    rintro left right hlt rfl
    exact Nat.lt_irrefl _ hlt
  · intro span
    rw [mem_names_iff_of_line hname, isNamePlace_iff]
  · intro span hspan
    rw [← String.utf8Encode_toList]
    exact (isNamePlace_of_mem_names hspan).covers.slice_eq

/-- Both kinds of quotes count, and a name inside a line does not. -/
theorem names_are_where_given_beside_annotation :
    ∃ text, text = "name = 'A'\na = [\x7b name = \"A\" \x7d]\n\tname = \"A\"\n" ∧
      '\n' ∉ "A".toList ∧ ⟨8, 1⟩ ∈ names text "A" ∧ ⟨26, 1⟩ ∉ names text "A" ∧
      ⟨41, 1⟩ ∈ names text "A" ∧
      ∀ span ∈ names text "A", slice text span.offset span.length = "A".toByteArray := by
  have hname : '\n' ∉ "A".toList := by decide
  obtain ⟨-, -, hplaces, hslices⟩ := @names_are_where_given
    "name = 'A'\na = [\x7b name = \"A\" \x7d]\n\tname = \"A\"\n" "A" hname
  refine ⟨_, rfl, hname, ?_, ?_, ?_, hslices⟩
  · rw [hplaces]
    exact ⟨0, ⟨[], '\'', _, by decide, ⟨[], [], rfl, .inl rfl, by simp⟩, rfl, rfl⟩, rfl⟩
  · rw [hplaces]
    rintro ⟨place, ⟨before, quote, after, -, hstarts, rfl, htext⟩, hspan⟩
    have hlength : byteLength "name = 'A'\na = [\x7b ".toList = byteLength before := by
      have hoffset : 18 + 8 = byteLength before + 8 := congrArg Span.offset hspan
      exact Nat.add_right_cancel hoffset
    rw [List.append_assoc] at htext
    have hfront : "name = 'A'\na = [\x7b ".toList = before :=
      (@append_inj_of_byteLength _ before "name = \"A\" \x7d]\n\tname = \"A\"\n".toList _ htext
        hlength).1
    rw [← hfront, ← foldl_stillBlank_iff] at hstarts
    exact absurd hstarts (by decide)
  · rw [hplaces]
    exact ⟨33, ⟨"name = 'A'\na = [\x7b name = \"A\" \x7d]\n\t".toList, '"', _, by decide,
      ⟨"name = 'A'\na = [\x7b name = \"A\" \x7d]\n".toList, ['\t'], rfl, .inr rfl, by simp⟩,
      rfl, rfl⟩, rfl⟩

/-! ### Values -/

theorem exists_of_value? {text value : String} {span : Span} (h : value? text value = some span) :
    ∃ before quote after, quote ∈ quotes ∧ text.toList = before ++ quoted quote value ++ after ∧
      span = ⟨byteLength before + 1, size value⟩ := by
  obtain ⟨quote, hquote, hspan⟩ := List.exists_of_findSome?_eq_some h
  obtain ⟨place, hplace, rfl⟩ := Option.map_eq_some_iff.1 hspan
  have hmem := List.mem_of_mem_head? (Option.mem_def.2 hplace)
  obtain ⟨before, after, htext, rfl⟩ := exists_of_mem_occurrencesFrom hmem
  refine ⟨before, quote, after, hquote, htext, ?_⟩
  rw [utf8Size_of_mem_quotes hquote, Nat.zero_add]

theorem covers_of_value? {text value : String} {span : Span} (h : value? text value = some span) :
    Covers text span value.toList := by
  obtain ⟨before, quote, after, hquote, htext, rfl⟩ := exists_of_value? h
  refine ⟨before ++ [quote], quote :: after, by simp [htext, quoted], ?_, rfl⟩
  simp [utf8Size_of_mem_quotes hquote]

theorem covers_of_mem_names {text name : String} {span : Span} (h : span ∈ names text name) :
    Covers text span name.toList := (isNamePlace_of_mem_names h).covers

end FunctionForge.Span
