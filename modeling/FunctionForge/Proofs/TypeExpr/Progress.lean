import FunctionForge.Proofs.TypeExpr.Reader

/-!
# How the reader moves through the tokens

A step consumes some tokens and looks at the one behind them, so it goes the same way over any list
that agrees that far. Where the reader stops with an error, it has looked at the next token and the
one after it, and at nothing else. Hence a run that is refused is refused over every list that agrees
with the given one up to those two.

The bottom of the stack is never projected, which leaves the reader no error but a mismatch with the
next token.
-/

namespace FunctionForge.TypeExpr.Reader

/-! ### The next token

Lists are compared by their next tokens, where an empty list counts as the end of the text. -/

theorem peek_append_congr {left left' right right' : List Located}
    (hleft : left'.map Located.token = left.map Located.token) (hright : peek right' = peek right) :
    peek (left' ++ right') = peek (left ++ right) := by
  cases left with
  | nil =>
    obtain rfl : left' = [] := by simpa using hleft
    exact hright
  | cons next left =>
    obtain ⟨next', left', rfl, hnext, -⟩ := List.map_eq_cons_iff.1 hleft
    exact hnext

theorem eq_cons_of_peek {tokens : List Located} {token : Token} (h : peek tokens = token)
    (htoken : token ≠ .finish) : ∃ offset, tokens = ⟨token, offset⟩ :: tokens.tail := by
  cases tokens with
  | nil => exact absurd h.symm htoken
  | cons next rest =>
    obtain ⟨_, offset⟩ := next
    obtain rfl := h
    exact ⟨offset, rfl⟩

/-- Where neither a name nor a star comes next, the reader refuses to read on. -/
theorem readStep_of_peek_ne {tokens : List Located} (opened : List OpenType)
    (hstar : peek tokens ≠ .star) (hname : ∀ name, peek tokens ≠ .name name) :
    readStep opened tokens =
      .stop (.error (refuse (.mismatch (if opened.isEmpty then .typeName else .argument))
        tokens)) := by
  match tokens with
  | [] => rfl
  | ⟨.star, _⟩ :: _ => exact absurd rfl hstar
  | ⟨.name name, _⟩ :: _ => exact absurd rfl (hname name)
  | ⟨.opening, _⟩ :: _ | ⟨.closing, _⟩ :: _ | ⟨.comma, _⟩ :: _ | ⟨.question, _⟩ :: _
  | ⟨.finish, _⟩ :: _ => rfl

/-- Behind the whole type nothing may come but the end of the text. -/
theorem placeStep_nil_of_peek_ne {argument : TypeArg} {tokens : List Located}
    (h : peek tokens ≠ .finish) :
    placeStep argument [] tokens = .stop (.error (refuse (.mismatch .finish) tokens)) := if_neg h

/-- Where neither a comma nor a closing bracket comes next, an open list does not go on. -/
theorem placeStep_of_peek_ne {argument : TypeArg} {parent : OpenType} {outer : List OpenType}
    {tokens : List Located} (hcomma : peek tokens ≠ .comma) (hclosing : peek tokens ≠ .closing) :
    placeStep argument (parent :: outer) tokens =
      .stop (.error (refuse (.mismatch .commaOrClosing) tokens)) := by
  match tokens with
  | [] => rfl
  | ⟨.comma, _⟩ :: _ => exact absurd rfl hcomma
  | ⟨.closing, _⟩ :: _ => exact absurd rfl hclosing
  | ⟨.name _, _⟩ :: _ | ⟨.opening, _⟩ :: _ | ⟨.star, _⟩ :: _ | ⟨.question, _⟩ :: _
  | ⟨.finish, _⟩ :: _ => rfl

/-! ### What a step depends on -/

/-- A way through the tokens depends only on those it consumes and on the one behind them. -/
def IsLocal (way : List Located → Outcome) (tokens : List Located) (after : Reader) : Prop :=
  ∃ consumed, tokens = consumed ++ after.tokens ∧ .finish ∉ consumed.map Located.token ∧
    ∀ consumed' rest, consumed'.map Located.token = consumed.map Located.token →
      peek rest = peek after.tokens → way (consumed' ++ rest) = .next { after with tokens := rest }

theorem exists_takeQuestion (tokens : List Located) :
    ∃ marks, tokens = marks ++ (takeQuestion tokens).2 ∧ .finish ∉ marks.map Located.token ∧
      ∀ marks' rest, marks'.map Located.token = marks.map Located.token →
        peek rest = peek (takeQuestion tokens).2 →
          takeQuestion (marks' ++ rest) = ((takeQuestion tokens).1, rest) := by
  have hplain : peek tokens ≠ .question → takeQuestion tokens = (false, tokens) := by
    intro h
    cases tokens with
    | nil => rfl
    | cons next tokens => exact if_neg h
  by_cases hquestion : peek tokens = .question
  · cases tokens with
    | nil => exact absurd hquestion (by simp [peek])
    | cons next tokens =>
      have htoken : next.token = .question := hquestion
      have htake : takeQuestion (next :: tokens) = (true, tokens) := if_pos htoken
      rw [htake]
      refine ⟨[next], rfl, by simp [htoken], ?_⟩
      intro marks' rest hmarks _
      obtain ⟨next', rfl, hnext⟩ := List.map_eq_singleton_iff.1 hmarks
      exact if_pos (hnext.trans htoken)
  · rw [hplain hquestion]
    refine ⟨[], rfl, List.not_mem_nil, ?_⟩
    intro marks' rest hmarks hrest
    obtain rfl : marks' = [] := by simpa using hmarks
    cases rest with
    | nil => rfl
    | cons next rest => exact if_neg fun h => hquestion (hrest.symm.trans h)

/-- Behind the name of a type, an opening bracket starts its argument list. -/
theorem readNamed_of_peek_eq {opened : List OpenType} {projection : Projection} {name : String}
    {offset : Nat} {next : Located} {rest : List Located} (h : next.token = .opening) :
    readNamed opened projection (⟨.name name, offset⟩ :: next :: rest) =
      .next ⟨.read, ⟨projection, name, []⟩ :: opened, rest⟩ := by
  obtain ⟨token, offset'⟩ := next
  obtain rfl : token = .opening := h
  rfl

/-- At a name the reader goes on. -/
theorem exists_readNamed (opened : List OpenType) (projection : Projection) (name : String)
    (offset : Nat) (rest : List Located) :
    ∃ after, readNamed opened projection (⟨.name name, offset⟩ :: rest) = .next after := by
  by_cases hopening : peek rest = .opening
  · cases rest with
    | nil => exact absurd hopening (by simp [peek])
    | cons next rest => exact ⟨_, readNamed_of_peek_eq hopening⟩
  · exact ⟨_, readNamed_of_peek_ne hopening⟩

/-- Where a name stands is no matter for what comes of it. -/
theorem readNamed_offset (opened : List OpenType) (projection : Projection) (name : String)
    (offset offset' : Nat) (rest : List Located) :
    readNamed opened projection (⟨.name name, offset⟩ :: rest) =
      readNamed opened projection (⟨.name name, offset'⟩ :: rest) := by
  by_cases hopening : peek rest = .opening
  · cases rest with
    | nil => exact absurd hopening (by simp [peek])
    | cons next rest => rw [readNamed_of_peek_eq hopening, readNamed_of_peek_eq hopening]
  · rw [readNamed_of_peek_ne hopening, readNamed_of_peek_ne hopening]

theorem readNamed_isLocal {opened : List OpenType} {projection : Projection} {name : String}
    {offset : Nat} {rest : List Located} {after : Reader}
    (h : readNamed opened projection (⟨.name name, offset⟩ :: rest) = .next after) :
    IsLocal (fun rest => readNamed opened projection (⟨.name name, offset⟩ :: rest)) rest
      after := by
  by_cases hopening : peek rest = .opening
  · cases rest with
    | nil => exact absurd hopening (by simp [peek])
    | cons next rest =>
      have htoken : next.token = .opening := hopening
      rw [readNamed_of_peek_eq htoken] at h
      injection h with h
      subst h
      refine ⟨[next], rfl, by simp [htoken], ?_⟩
      intro consumed' rest' hconsumed _
      obtain ⟨next', rfl, hnext⟩ := List.map_eq_singleton_iff.1 hconsumed
      exact readNamed_of_peek_eq (hnext.trans htoken)
  · rw [readNamed_of_peek_ne hopening] at h
    injection h with h
    subst h
    obtain ⟨marks, hrest, hfinish, hagain⟩ := exists_takeQuestion rest
    refine ⟨marks, hrest, hfinish, ?_⟩
    intro marks' rest' hmarks hpeek
    have hpeek' : peek (marks' ++ rest') ≠ .opening := by
      rw [peek_append_congr hmarks hpeek, ← hrest]
      exact hopening
    show readNamed opened projection (⟨.name name, offset⟩ :: (marks' ++ rest')) = _
    rw [readNamed_of_peek_ne hpeek', hagain marks' rest' hmarks hpeek]

/-- The reader tells a projection from a type by whether another name follows. -/
theorem readStep_name {opened : List OpenType} {name : String} {offset : Nat}
    {rest : List Located} :
    readStep opened (⟨.name name, offset⟩ :: rest) =
      if !opened.isEmpty && (peekName? rest).isSome then
        match projectionWord? name with
        | some projection => readNamed opened projection rest
        | none => .stop (.error (refuse (.mismatch .projectionOrName) (⟨.name name, offset⟩ :: rest)))
      else readNamed opened .invariant (⟨.name name, offset⟩ :: rest) := rfl

theorem exists_of_peekName? {tokens : List Located} (h : (peekName? tokens).isSome) :
    ∃ name offset rest, tokens = ⟨.name name, offset⟩ :: rest := by
  cases tokens with
  | nil => simp [peekName?, peek] at h
  | cons next rest =>
    obtain ⟨token, offset⟩ := next
    cases token with
    | name name => exact ⟨name, offset, rest, rfl⟩
    | _ => simp [peekName?, peek] at h

/-- A step that consumed a token before it went on locally is local. -/
theorem IsLocal.cons {way way' : List Located → Outcome} {next : Located} {rest : List Located}
    {after : Reader} (h : IsLocal way rest after) (hfinish : next.token ≠ .finish)
    (hway : ∀ next' rest', next'.token = next.token → peek rest' = peek rest →
      way' (next' :: rest') = way rest') : IsLocal way' (next :: rest) after := by
  obtain ⟨consumed, rfl, hconsumed, hagain⟩ := h
  refine ⟨next :: consumed, rfl, List.not_mem_cons_of_ne_of_not_mem hfinish.symm hconsumed, ?_⟩
  intro consumed' rest' hmap hpeek
  obtain ⟨next', consumed', rfl, hnext, hmap⟩ := List.map_eq_cons_iff.1 hmap
  rw [List.cons_append, hway next' _ hnext (peek_append_congr hmap hpeek)]
  exact hagain consumed' rest' hmap hpeek

theorem IsLocal.singleton {way : List Located → Outcome} {next : Located} {task : Task}
    {opened : List OpenType} {rest : List Located} (hfinish : next.token ≠ .finish)
    (hway : ∀ next' rest', next'.token = next.token →
      way (next' :: rest') = .next ⟨task, opened, rest'⟩) :
    IsLocal way (next :: rest) ⟨task, opened, rest⟩ := by
  refine ⟨[next], rfl, by simpa using hfinish.symm, ?_⟩
  intro consumed' rest' hmap _
  obtain ⟨next', rfl, hnext⟩ := List.map_eq_singleton_iff.1 hmap
  exact hway next' rest' hnext

theorem peekName?_congr {left right : List Located} (h : peek left = peek right) :
    peekName? left = peekName? right := by
  rw [peekName?, h, peekName?]

theorem readStep_name_isLocal {opened : List OpenType} {name : String} {offset : Nat}
    {rest : List Located} {after : Reader}
    (h : readStep opened (⟨.name name, offset⟩ :: rest) = .next after) :
    IsLocal (readStep opened) (⟨.name name, offset⟩ :: rest) after := by
  rw [readStep_name] at h
  split at h
  · next hprefixed =>
    split at h
    · next projection hword =>
      rw [Bool.and_eq_true] at hprefixed
      obtain ⟨name', offset', rest', rfl⟩ := exists_of_peekName? hprefixed.2
      have hnamed : IsLocal (readNamed opened projection) (⟨.name name', offset'⟩ :: rest')
          after := by
        apply (readNamed_isLocal h).cons (by simp)
        rintro ⟨_, offset''⟩ rest'' rfl _
        exact readNamed_offset opened projection name' offset'' offset' rest''
      apply hnamed.cons (by simp)
      rintro ⟨_, offset''⟩ rest'' rfl hpeek
      rw [readStep_name, peekName?_congr hpeek, if_pos (by simpa using hprefixed), hword]
    · cases h
  · next hplain =>
    apply (readNamed_isLocal h).cons (by simp)
    rintro ⟨_, offset'⟩ rest' rfl hpeek
    rw [readStep_name, peekName?_congr hpeek, if_neg hplain]
    exact readNamed_offset opened .invariant name offset' offset rest'

theorem readStep_isLocal {opened : List OpenType} {tokens : List Located} {after : Reader}
    (h : readStep opened tokens = .next after) : IsLocal (readStep opened) tokens after := by
  by_cases hstar : peek tokens = .star
  · obtain ⟨offset, htokens⟩ := eq_cons_of_peek hstar (by simp)
    rw [htokens] at h ⊢
    cases opened with
    | nil => cases h
    | cons parent outer =>
      injection h with h
      subst h
      apply IsLocal.singleton (by simp)
      rintro ⟨_, offset'⟩ rest' rfl
      rfl
  by_cases hname : ∃ name, peek tokens = .name name
  · obtain ⟨name, hname⟩ := hname
    obtain ⟨offset, htokens⟩ := eq_cons_of_peek hname (by simp)
    rw [htokens] at h ⊢
    exact readStep_name_isLocal h
  · rw [readStep_of_peek_ne opened hstar (not_exists.1 hname)] at h
    cases h

theorem placeStep_isLocal {argument : TypeArg} {opened : List OpenType} {tokens : List Located}
    {after : Reader} (h : placeStep argument opened tokens = .next after) :
    IsLocal (placeStep argument opened) tokens after := by
  cases opened with
  | nil =>
    simp only [placeStep] at h
    split at h
    · split at h <;> simp at h
    · simp at h
  | cons parent outer =>
    by_cases hcomma : peek tokens = .comma
    · obtain ⟨offset, htokens⟩ := eq_cons_of_peek hcomma (by simp)
      rw [htokens] at h ⊢
      injection h with h
      subst h
      apply IsLocal.singleton (by simp)
      rintro ⟨_, offset'⟩ rest rfl
      rfl
    by_cases hclosing : peek tokens = .closing
    · obtain ⟨offset, htokens⟩ := eq_cons_of_peek hclosing (by simp)
      rw [htokens] at h ⊢
      injection h with h
      subst h
      obtain ⟨marks, htail, hfinish, hagain⟩ := exists_takeQuestion tokens.tail
      refine ⟨⟨.closing, offset⟩ :: marks, congrArg _ htail, by simpa using hfinish, ?_⟩
      intro consumed rest hmap hpeek
      obtain ⟨⟨_, offset'⟩, marks', rfl, rfl, hmarks⟩ := List.map_eq_cons_iff.1 hmap
      simp only [List.cons_append, placeStep, push, hagain marks' rest hmarks hpeek]
    rw [placeStep_of_peek_ne hcomma hclosing] at h
    cases h

theorem step_isLocal {task : Task} {opened : List OpenType} {tokens : List Located}
    {after : Reader} (h : step ⟨task, opened, tokens⟩ = .next after) :
    IsLocal (fun tokens => step ⟨task, opened, tokens⟩) tokens after := by
  cases task with
  | read => exact readStep_isLocal h
  | place argument => exact placeStep_isLocal h

/-! ### The bottom of the stack

A projection stands only in front of an argument, so neither the outermost open type nor the whole
type is projected. -/

/-- Whether what the reader has read starts with the name of a type. -/
structure Rooted (reader : Reader) : Prop where
  outermost : ∀ t ∈ reader.opened.getLast?, t.projection = .invariant
  whole : reader.opened = [] → ∀ argument, reader.task = .place argument →
    ∃ type, argument = .projected .invariant type

theorem Rooted.start (tokens : List Located) : Rooted (start tokens) where
  outermost := by simp [Reader.start]
  whole := by simp [Reader.start]

theorem rooted_of_readNamed {opened : List OpenType} {projection : Projection}
    {tokens : List Located} {after : Reader}
    (hopened : ∀ t ∈ opened.getLast?, t.projection = .invariant)
    (hprojection : opened = [] → projection = .invariant)
    (h : readNamed opened projection tokens = .next after) : Rooted after := by
  unfold readNamed at h
  split at h
  · injection h with h
    subst h
    constructor
    · cases opened with
      | nil => simpa using hprojection
      | cons parent outer => simpa using hopened
    · simp
  · injection h with h
    subst h
    refine ⟨hopened, ?_⟩
    intro hnil argument hplace
    obtain rfl := hprojection hnil
    cases hplace
    exact ⟨_, rfl⟩
  · simp at h

theorem rooted_of_readStep {opened : List OpenType} {tokens : List Located} {after : Reader}
    (hopened : ∀ t ∈ opened.getLast?, t.projection = .invariant)
    (h : readStep opened tokens = .next after) : Rooted after := by
  unfold readStep at h
  split at h
  · split at h
    · simp at h
    · next hnil =>
      injection h with h
      subst h
      exact ⟨hopened, fun h => absurd (List.isEmpty_iff.2 h) hnil⟩
  · split at h
    · next hprefixed =>
      split at h
      · apply rooted_of_readNamed hopened ?_ h
        rintro rfl
        simp at hprefixed
      · simp at h
    · exact rooted_of_readNamed hopened (fun _ => rfl) h
  · simp at h

theorem rooted_of_placeStep {argument : TypeArg} {opened : List OpenType} {tokens : List Located}
    {after : Reader} (hopened : ∀ t ∈ opened.getLast?, t.projection = .invariant)
    (h : placeStep argument opened tokens = .next after) : Rooted after := by
  unfold placeStep at h
  split at h
  · split at h
    · split at h <;> simp at h
    · simp at h
  · next parent outer =>
    split at h
    · injection h with h
      subst h
      refine ⟨?_, by simp [push]⟩
      cases outer with
      | nil => simpa [push] using hopened
      | cons => simpa [push] using hopened
    · simp only [push] at h
      injection h with h
      subst h
      cases outer with
      | nil =>
        have hparent : parent.projection = .invariant := hopened parent rfl
        refine ⟨by simp, ?_⟩
        intro _ argument' hplace
        cases hplace
        exact ⟨_, by rw [OpenType.closed, hparent]⟩
      | cons => exact ⟨by simpa using hopened, by simp⟩
    · simp at h

/-- A step keeps the bottom of the stack. -/
theorem Rooted.step {reader after : Reader} (hrooted : Rooted reader)
    (h : reader.step = .next after) : Rooted after := by
  obtain ⟨task, opened, tokens⟩ := reader
  cases task with
  | read => exact rooted_of_readStep hrooted.outermost h
  | place argument => exact rooted_of_placeStep hrooted.outermost h

/-! ### Where the reader stops -/

/-- A way through the tokens refuses the next one, and it does so wherever the next token and the one
behind it are the same. -/
def Refuses (way : List Located → Outcome) (tokens : List Located) (e : ParseError) : Prop :=
  (∃ expected, e = refuse (.mismatch expected) tokens) ∧
    ∀ tokens' : List Located, peek tokens' = peek tokens →
      (peek tokens ≠ .finish → peek tokens'.tail = peek tokens.tail) →
        ∃ e', way tokens' = .stop (.error e')

/-- A name is refused only in front of another name, where it is no projection. -/
theorem readStep_name_refuses {opened : List OpenType} {name : String} {offset : Nat}
    {rest : List Located} {e : ParseError}
    (h : readStep opened (⟨.name name, offset⟩ :: rest) = .stop (.error e)) :
    Refuses (readStep opened) (⟨.name name, offset⟩ :: rest) e := by
  rw [readStep_name] at h
  split at h
  · next hprefixed =>
    split at h
    · next projection hword =>
      rw [Bool.and_eq_true] at hprefixed
      obtain ⟨name', offset', rest', rfl⟩ := exists_of_peekName? hprefixed.2
      obtain ⟨after, hafter⟩ := exists_readNamed opened projection name' offset' rest'
      rw [hafter] at h
      cases h
    · next hword =>
      cases h
      refine ⟨⟨_, rfl⟩, ?_⟩
      intro tokens' hpeek htail
      obtain ⟨offset', htokens'⟩ := eq_cons_of_peek hpeek (by simp [peek])
      have hname : peekName? tokens'.tail = peekName? rest :=
        peekName?_congr (htail (by simp [peek]))
      rw [htokens', peek, readStep_name, hname, if_pos hprefixed, hword]
      exact ⟨_, rfl⟩
  · obtain ⟨after, hafter⟩ := exists_readNamed opened .invariant name offset rest
    rw [hafter] at h
    cases h

theorem readStep_refuses {opened : List OpenType} {tokens : List Located} {e : ParseError}
    (h : readStep opened tokens = .stop (.error e)) : Refuses (readStep opened) tokens e := by
  by_cases hstar : peek tokens = .star
  · obtain ⟨offset, htokens⟩ := eq_cons_of_peek hstar (by simp)
    rw [htokens] at h ⊢
    cases opened with
    | nil =>
      cases h
      refine ⟨⟨_, rfl⟩, ?_⟩
      intro tokens' hpeek _
      obtain ⟨offset', htokens'⟩ := eq_cons_of_peek hpeek (by simp [peek])
      rw [htokens']
      exact ⟨_, rfl⟩
    | cons parent outer => cases h
  by_cases hname : ∃ name, peek tokens = .name name
  · obtain ⟨name, hname⟩ := hname
    obtain ⟨offset, htokens⟩ := eq_cons_of_peek hname (by simp)
    rw [htokens] at h ⊢
    exact readStep_name_refuses h
  · rw [not_exists] at hname
    rw [readStep_of_peek_ne opened hstar hname] at h
    cases h
    refine ⟨⟨_, rfl⟩, ?_⟩
    intro tokens' hpeek _
    rw [← hpeek] at hstar hname
    exact ⟨_, readStep_of_peek_ne opened hstar hname⟩

theorem placeStep_refuses {argument : TypeArg} {opened : List OpenType} {tokens : List Located}
    {e : ParseError} (hwhole : opened = [] → ∃ type, argument = .projected .invariant type)
    (h : placeStep argument opened tokens = .stop (.error e)) :
    Refuses (placeStep argument opened) tokens e := by
  cases opened with
  | nil =>
    by_cases hfinish : peek tokens = .finish
    · obtain ⟨type, rfl⟩ := hwhole rfl
      rw [placeStep, if_pos hfinish] at h
      cases h
    · rw [placeStep_nil_of_peek_ne hfinish] at h
      cases h
      refine ⟨⟨_, rfl⟩, ?_⟩
      intro tokens' hpeek _
      rw [← hpeek] at hfinish
      exact ⟨_, placeStep_nil_of_peek_ne hfinish⟩
  | cons parent outer =>
    by_cases hcomma : peek tokens = .comma
    · obtain ⟨offset, htokens⟩ := eq_cons_of_peek hcomma (by simp)
      rw [htokens] at h
      cases h
    by_cases hclosing : peek tokens = .closing
    · obtain ⟨offset, htokens⟩ := eq_cons_of_peek hclosing (by simp)
      rw [htokens] at h
      cases h
    rw [placeStep_of_peek_ne hcomma hclosing] at h
    cases h
    refine ⟨⟨_, rfl⟩, ?_⟩
    intro tokens' hpeek _
    rw [← hpeek] at hcomma hclosing
    exact ⟨_, placeStep_of_peek_ne hcomma hclosing⟩

/-- A step that stops with an error has a mismatch with the next token, and has looked no further
than to the token behind it. -/
theorem Rooted.step_refuses {task : Task} {opened : List OpenType} {tokens : List Located}
    {e : ParseError} (hrooted : Rooted ⟨task, opened, tokens⟩)
    (h : Reader.step ⟨task, opened, tokens⟩ = .stop (.error e)) :
    Refuses (fun tokens => Reader.step ⟨task, opened, tokens⟩) tokens e := by
  cases task with
  | read => exact readStep_refuses h
  | place argument =>
    apply placeStep_refuses ?_ h
    intro hnil
    exact hrooted.whole hnil argument rfl

/-! ### Where a run stops -/

/-- A reader is refused at a token: what stands in front of it was read, and every list that agrees
with the given one up to the token behind it is refused as well. -/
structure RefusedAt (reader : Reader) (before : List Located) (next : Located)
    (rest : List Located) : Prop where
  tokens_eq : reader.tokens = before ++ next :: rest
  read : ∃ last, Rooted last ∧ last.tokens = next :: rest ∧ last.word = reader.word
  refuses : ∀ tokens' : List Located,
    (before ++ next :: rest.take 1).map Located.token <+: tokens'.map Located.token →
      ∃ e', run ⟨reader.task, reader.opened, tokens'⟩ = .error e'

theorem peek_eq_of_prefix {before more rest tokens : List Located} {next : Located}
    (h : (before ++ next :: more).map Located.token <+: tokens.map Located.token) :
    peek tokens = peek (before ++ next :: rest) := by
  cases tokens with
  | nil => simp at h
  | cons first tokens =>
    cases before with
    | nil => exact (List.cons_prefix_cons.1 h).1.symm
    | cons first' before => exact (List.cons_prefix_cons.1 h).1.symm

/-- What refuses a reader after a step refuses it before the step, behind the tokens consumed. -/
theorem RefusedAt.of_step {reader after : Reader} {consumed before rest : List Located}
    {next : Located} (hstep : reader.step = .next after)
    (htokens : reader.tokens = consumed ++ after.tokens)
    (hagain : ∀ consumed' rest', consumed'.map Located.token = consumed.map Located.token →
      peek rest' = peek after.tokens →
        step ⟨reader.task, reader.opened, consumed' ++ rest'⟩ = .next { after with tokens := rest' })
    (h : RefusedAt after before next rest) : RefusedAt reader (consumed ++ before) next rest where
  tokens_eq := by rw [htokens, h.tokens_eq, List.append_assoc]
  read := by
    obtain ⟨last, hlast, hrest, hword⟩ := h.read
    exact ⟨last, hlast, hrest, hword.trans (word_step hstep)⟩
  refuses := by
    rintro tokens' ⟨more, hmore⟩
    rw [List.append_assoc, List.map_append, List.append_assoc, eq_comm,
      List.map_eq_append_iff] at hmore
    obtain ⟨consumed', rest', rfl, hmap, hrest'⟩ := hmore
    have hpeek : peek rest' = peek after.tokens := by
      rw [h.tokens_eq]
      exact peek_eq_of_prefix ⟨more, hrest'.symm⟩
    rw [run_eq_of_step (hagain consumed' rest' hmap hpeek)]
    exact h.refuses rest' ⟨more, hrest'.symm⟩

/-- A step that stops with an error refuses the next token. -/
theorem Rooted.exists_refusedAt_of_stop {reader : Reader} {e : ParseError}
    (hrooted : Rooted reader) (hfinish : .finish ∈ reader.tokens.map Located.token)
    (hstep : reader.step = .stop (.error e)) :
    ∃ next rest, RefusedAt reader [] next rest ∧ next.offset = e.offset ∧
      ∃ expected, e.fault = .mismatch expected next.token := by
  have hne : reader.tokens ≠ [] := fun hnil => by simp [hnil] at hfinish
  obtain ⟨next, rest, hnext⟩ := List.exists_cons_of_ne_nil hne
  obtain ⟨⟨expected, he⟩, hrefuses⟩ := Rooted.step_refuses hrooted hstep
  rw [hnext] at he hfinish hrefuses
  refine ⟨next, rest, ⟨hnext, ⟨reader, hrooted, hnext, rfl⟩, ?_⟩, by rw [he]; rfl,
    expected, by rw [he]; rfl⟩
  intro tokens' hprefix
  have hpeek : peek tokens' = peek ([] ++ next :: rest) := peek_eq_of_prefix hprefix
  have hsecond : peek (next :: rest) ≠ .finish → peek tokens'.tail = peek rest := by
    intro hne
    -- The end of the text is still to come, so there is a token behind the next one.
    have hrest : .finish ∈ rest.map Located.token :=
      (List.mem_cons.1 hfinish).resolve_left (Ne.symm hne)
    have hne' : rest ≠ [] := fun hnil => by simp [hnil] at hrest
    obtain ⟨second, rest, rfl⟩ := List.exists_cons_of_ne_nil hne'
    obtain ⟨offset, htokens'⟩ := eq_cons_of_peek hpeek hne
    rw [htokens'] at hprefix
    show peek tokens'.tail = peek ([] ++ second :: rest)
    exact peek_eq_of_prefix (List.cons_prefix_cons.1 hprefix).2
  obtain ⟨e', he'⟩ := hrefuses tokens' hpeek hsecond
  exact ⟨e', run_eq_of_stop he'⟩

/-- A run that ends with an error is refused at one of the tokens, and the error names it. -/
theorem exists_refusedAt {reader : Reader} {e : ParseError} (hrooted : Rooted reader)
    (hfinish : .finish ∈ reader.tokens.map Located.token) (h : reader.run = .error e) :
    ∃ before next rest, RefusedAt reader before next rest ∧ next.offset = e.offset ∧
      ∃ expected, e.fault = .mismatch expected next.token := by
  fun_induction run reader with
  | case1 reader after hstep ih =>
    obtain ⟨consumed, htokens, hconsumed, hagain⟩ := step_isLocal hstep
    rw [htokens, List.map_append, List.mem_append] at hfinish
    obtain ⟨before, next, rest, hrefused, he⟩ :=
      ih (hrooted.step hstep) (hfinish.resolve_left hconsumed) h
    exact ⟨consumed ++ before, next, rest, hrefused.of_step hstep htokens hagain, he⟩
  | case2 reader result hstep =>
    subst h
    obtain ⟨next, rest, hrefused, he⟩ := hrooted.exists_refusedAt_of_stop hfinish hstep
    exact ⟨[], next, rest, hrefused, he⟩

end FunctionForge.TypeExpr.Reader
