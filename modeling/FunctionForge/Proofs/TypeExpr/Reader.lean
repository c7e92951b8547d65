import FunctionForge.Proofs.TypeExpr.Layout
import FunctionForge.TypeExpr.Parser

/-!
# What the reader makes of tokens

The reader never loses a token: those of the open types, of the argument it is about to place and
those it has not consumed make up the same word after every step. So a type that it ends with has
the tokens that were read. In the other direction the reader is driven through the tokens of a type,
whatever types are open around it, until it is about to place that type.
-/

namespace FunctionForge.TypeExpr

/-! ### The word of a reader -/

theorem clauseTokens_concat (arguments : List TypeArg) (last : TypeArg) :
    clauseTokens (arguments ++ [last]) =
      .opening :: (arguments.flatMap (fun argument => argumentTokens argument ++ [.comma]) ++
        argumentTokens last ++ [.closing]) := by
  have hrest : ∀ arguments : List TypeArg, restTokens (arguments ++ [last]) =
      .comma :: (arguments.flatMap (fun argument => argumentTokens argument ++ [.comma]) ++
        argumentTokens last ++ [.closing]) := by
    intro arguments
    induction arguments with
    | nil => simp [restTokens]
    | cons argument arguments ih => simp [restTokens, ih]
  cases arguments with
  | nil => simp [clauseTokens, restTokens]
  | cons argument arguments => simp [clauseTokens, hrest]

def OpenType.tokens (t : OpenType) : List Token :=
  projectionTokens t.projection ++ .name t.name :: .opening ::
    t.reversed.reverse.flatMap fun argument => argumentTokens argument ++ [.comma]

/-- The tokens that a stack of open types has consumed, those of the outermost one first. -/
def openedTokens : List OpenType → List Token
  | [] => []
  | t :: outer => openedTokens outer ++ t.tokens

def Task.tokens : Task → List Token
  | .read => []
  | .place argument => argumentTokens argument

namespace Reader

/-- The word of a reader: what it has consumed, followed by what it has not. -/
def word (reader : Reader) : List Token :=
  openedTokens reader.opened ++ reader.task.tokens ++ reader.tokens.map Located.token

theorem markTokens_takeQuestion (tokens : List Located) :
    markTokens (takeQuestion tokens).1 ++ (takeQuestion tokens).2.map Located.token =
      tokens.map Located.token := by
  unfold takeQuestion
  split
  · rfl
  · split
    · next h => simp [markTokens, h]
    · rfl

theorem projectionTokens_of_projectionWord? {word : String} {projection : Projection}
    (h : projectionWord? word = some projection) : projectionTokens projection = [.name word] := by
  unfold projectionWord? at h
  split at h
  case h_3 => simp at h
  all_goals
    cases h
    rfl

theorem word_readNamed {opened : List OpenType} {projection : Projection} {tokens : List Located}
    {after : Reader} (h : readNamed opened projection tokens = .next after) :
    after.word = openedTokens opened ++ projectionTokens projection ++
      tokens.map Located.token := by
  unfold readNamed at h
  split at h
  · injection h with h
    subst h
    simp [word, openedTokens, OpenType.tokens, Task.tokens]
  · next n _ rest _ =>
    injection h with h
    subst h
    simp [word, Task.tokens, argumentTokens, typeTokens, clauseTokens,
      ← markTokens_takeQuestion rest]
  · simp at h

theorem word_readStep {opened : List OpenType} {tokens : List Located} {after : Reader}
    (h : readStep opened tokens = .next after) :
    after.word = openedTokens opened ++ tokens.map Located.token := by
  unfold readStep at h
  split at h
  · split at h
    · simp at h
    · injection h with h
      subst h
      simp [word, Task.tokens, argumentTokens]
  · split at h
    · split at h
      · next projection hword =>
        rw [word_readNamed h, projectionTokens_of_projectionWord? hword]
        simp
      · simp at h
    · rw [word_readNamed h]
      simp [projectionTokens]
  · simp at h

theorem word_placeStep {argument : TypeArg} {opened : List OpenType} {tokens : List Located}
    {after : Reader} (h : placeStep argument opened tokens = .next after) :
    after.word = openedTokens opened ++ argumentTokens argument ++ tokens.map Located.token := by
  unfold placeStep at h
  split at h
  · split at h
    · split at h <;> simp at h
    · simp at h
  · next parent outer =>
    split at h
    · injection h with h
      subst h
      simp [word, push, openedTokens, OpenType.tokens, Task.tokens]
    · next rest =>
      simp only [push] at h
      injection h with h
      subst h
      simp [word, openedTokens, OpenType.tokens, OpenType.closed, Task.tokens, argumentTokens,
        typeTokens, clauseTokens_concat, ← markTokens_takeQuestion rest]
    · simp at h

/-- A step that goes on keeps the word. -/
theorem word_step {reader after : Reader} (h : reader.step = .next after) :
    after.word = reader.word := by
  obtain ⟨task, opened, tokens⟩ := reader
  cases task with
  | read => simpa [word, Task.tokens] using word_readStep h
  | place argument => exact word_placeStep h

theorem readNamed_ne_ok {opened : List OpenType} {projection : Projection}
    {tokens : List Located} {type : TypeRef} :
    readNamed opened projection tokens ≠ .stop (.ok type) := by
  intro h
  unfold readNamed at h
  split at h <;> simp at h

/-- A step ends with a type only at the end of the text, where that type is all that is left to
place. -/
theorem eq_place_of_step_eq_ok {reader : Reader} {type : TypeRef}
    (h : reader.step = .stop (.ok type)) :
    reader.opened = [] ∧ reader.task = .place (.projected .invariant type) ∧
      peek reader.tokens = .finish := by
  obtain ⟨task, opened, tokens⟩ := reader
  cases task with
  | read =>
    simp only [step, readStep] at h
    split at h
    · split at h <;> simp at h
    · split at h
      · split at h
        · exact absurd h readNamed_ne_ok
        · simp at h
      · exact absurd h readNamed_ne_ok
    · simp at h
  | place argument =>
    simp only [step, placeStep] at h
    split at h
    · split at h
      · next hfinish =>
        split at h
        · cases h
          exact ⟨rfl, rfl, hfinish⟩
        · simp at h
      · simp at h
    · split at h
      · simp at h
      · split at h <;> simp at h
      · simp at h

/-- What the reader ends with has the tokens that were read, up to the end of the text. -/
theorem word_eq_of_run_eq_ok {reader : Reader} {type : TypeRef} (h : reader.run = .ok type) :
    ∃ rest, reader.word = typeTokens type ++ rest.map Located.token ∧ peek rest = .finish := by
  fun_induction run reader with
  | case1 reader after hstep ih =>
    rw [← word_step hstep]
    exact ih h
  | case2 reader result hstep =>
    subst h
    obtain ⟨hopened, htask, hfinish⟩ := eq_place_of_step_eq_ok hstep
    refine ⟨reader.tokens, ?_, hfinish⟩
    simp [word, hopened, htask, openedTokens, Task.tokens, argumentTokens, projectionTokens]

/-! ### Driving the reader through a type -/

theorem run_eq_of_step {reader after : Reader} (h : reader.step = .next after) :
    reader.run = after.run := by
  rw [run]
  split
  · next after' hstep =>
    rw [h] at hstep
    cases hstep
    rfl
  · next result hstep => simp [h] at hstep

theorem run_eq_of_stop {reader : Reader} {result : Except ParseError TypeRef}
    (h : reader.step = .stop result) : reader.run = result := by
  rw [run]
  split
  · next after hstep => simp [h] at hstep
  · next result' hstep =>
    rw [h] at hstep
    cases hstep
    rfl

/-- The tokens that may follow a complete type. -/
def EndsType (tokens : List Located) : Prop :=
  peek tokens = .comma ∨ peek tokens = .closing ∨ peek tokens = .finish

theorem EndsType.peek_ne {tokens : List Located} (h : EndsType tokens) {token : Token}
    (htoken : token ∉ [Token.comma, .closing, .finish]) : peek tokens ≠ token := by
  rintro rfl
  rcases h with h | h | h <;> simp [h] at htoken

theorem takeQuestion_append {marks rest : List Located} {nullable : Bool}
    (hmarks : marks.map Located.token = markTokens nullable) (hrest : EndsType rest) :
    takeQuestion (marks ++ rest) = (nullable, rest) := by
  cases nullable with
  | false =>
    obtain rfl : marks = [] := by simpa [markTokens] using hmarks
    cases rest with
    | nil => rfl
    | cons next rest =>
      have hnext : next.token ≠ .question := hrest.peek_ne (by simp)
      simp [takeQuestion, hnext]
  | true =>
    obtain ⟨next, rfl, hnext⟩ : ∃ next, marks = [next] ∧ next.token = .question := by
      simpa [markTokens, List.map_eq_cons_iff] using hmarks
    simp [takeQuestion, hnext]

/-- A name that no argument list follows is a type. -/
theorem readNamed_of_peek_ne {opened : List OpenType} {projection : Projection} {name : String}
    {offset : Nat} {rest : List Located} (h : peek rest ≠ .opening) :
    readNamed opened projection (⟨.name name, offset⟩ :: rest) =
      .next ⟨.place (.projected projection (.mk name (takeQuestion rest).1 [])), opened,
        (takeQuestion rest).2⟩ := by
  cases rest with
  | nil => rfl
  | cons next rest =>
    obtain ⟨token, offset'⟩ := next
    cases token <;> first | rfl | exact absurd rfl h

theorem peek_marks_ne {marks rest : List Located} {nullable : Bool} {token : Token}
    (hmarks : marks.map Located.token = markTokens nullable) (hrest : EndsType rest)
    (htoken : token ∉ [Token.question, .comma, .closing, .finish]) :
    peek (marks ++ rest) ≠ token := by
  rw [List.mem_cons, not_or] at htoken
  cases nullable with
  | false =>
    obtain rfl : marks = [] := by simpa [markTokens] using hmarks
    exact hrest.peek_ne htoken.2
  | true =>
    obtain ⟨next, rfl, hnext⟩ : ∃ next, marks = [next] ∧ next.token = .question := by
      simpa [markTokens, List.map_eq_cons_iff] using hmarks
    simpa [peek, hnext] using Ne.symm htoken.1

/-- Behind the name of a type there is no other name. -/
theorem peekName?_of_clause {arguments : List TypeArg} {nullable : Bool} {tail rest : List Located}
    (htail : tail.map Located.token = clauseTokens arguments ++ markTokens nullable)
    (hrest : EndsType rest) : peekName? (tail ++ rest) = none := by
  have hpeek : ∀ name, peek (tail ++ rest) ≠ .name name := by
    intro name
    cases arguments with
    | nil => exact peek_marks_ne htail hrest (by simp)
    | cons argument arguments =>
      simp only [clauseTokens, List.cons_append, List.map_eq_cons_iff] at htail
      obtain ⟨next, tail, rfl, hnext, -⟩ := htail
      simp [peek, hnext]
  unfold peekName?
  split
  · next name hname => exact absurd hname (hpeek name)
  · rfl

theorem exists_of_typeTokens {type : TypeRef} {tokens : List Located}
    (h : tokens.map Located.token = typeTokens type) :
    ∃ offset tail, tokens = ⟨.name type.name, offset⟩ :: tail ∧
      tail.map Located.token = clauseTokens type.arguments ++ markTokens type.nullable := by
  cases type with
  | mk name nullable arguments =>
    rw [typeTokens, List.map_eq_cons_iff] at h
    obtain ⟨⟨token, offset⟩, tail, rfl, rfl, htail⟩ := h
    exact ⟨offset, tail, rfl, htail⟩

theorem endsType_of_restTokens {arguments : List TypeArg} {tokens : List Located}
    (h : tokens.map Located.token = restTokens arguments) (rest : List Located) :
    EndsType (tokens ++ rest) := by
  cases arguments <;>
    · rw [restTokens, List.map_eq_cons_iff] at h
      obtain ⟨next, tail, rfl, hnext, -⟩ := h
      simp [EndsType, peek, hnext]

/-- What the reader goes on with after an outcome. -/
def Outcome.result : Outcome → Except ParseError TypeRef
  | .next reader => reader.run
  | .stop result => result

theorem run_eq_result (reader : Reader) : reader.run = reader.step.result := by
  cases hstep : reader.step with
  | next after => exact run_eq_of_step hstep
  | stop result => exact run_eq_of_stop hstep

mutual

theorem result_readNamed (type : TypeRef) {tokens rest : List Located} (opened : List OpenType)
    (projection : Projection) (htokens : tokens.map Located.token = typeTokens type)
    (hrest : EndsType rest) :
    (readNamed opened projection (tokens ++ rest)).result =
      run ⟨.place (.projected projection type), opened, rest⟩ := by
  obtain ⟨offset, tail, rfl, htail⟩ := exists_of_typeTokens htokens
  cases type with
  | mk name nullable arguments =>
    cases arguments with
    | nil =>
      have htake : takeQuestion (tail ++ rest) = (nullable, rest) :=
        takeQuestion_append (by simpa [clauseTokens] using htail) hrest
      have hopening : peek (tail ++ rest) ≠ .opening := peek_marks_ne htail hrest (by simp)
      rw [List.cons_append, TypeRef.name_mk, readNamed_of_peek_ne hopening, htake]
      rfl
    | cons first others =>
      simp only [TypeRef.arguments_mk, clauseTokens, List.cons_append, List.append_assoc,
        List.map_eq_cons_iff, List.map_eq_append_iff] at htail
      obtain ⟨⟨_, offset'⟩, _, rfl, rfl, firstTokens, _, rfl, hfirst, othersTokens, marks, rfl,
        hothers, hmarks⟩ := htail
      have hends := endsType_of_restTokens hothers (marks ++ rest)
      have harguments := run_argument first ⟨projection, name, []⟩ opened hfirst hends
      have hfollowing := run_rest others first ⟨projection, name, []⟩ opened hothers hmarks hrest
      simpa [readNamed, Outcome.result] using harguments.trans hfollowing

theorem run_argument (argument : TypeArg) {tokens rest : List Located} (parent : OpenType)
    (outer : List OpenType) (htokens : tokens.map Located.token = argumentTokens argument)
    (hrest : EndsType rest) :
    run ⟨.read, parent :: outer, tokens ++ rest⟩ =
      run ⟨.place argument, parent :: outer, rest⟩ := by
  cases argument with
  | star =>
    rw [argumentTokens, List.map_eq_singleton_iff] at htokens
    obtain ⟨⟨_, offset⟩, rfl, rfl⟩ := htokens
    exact run_eq_of_step rfl
  | projected projection type =>
    rw [argumentTokens] at htokens
    rw [run_eq_result]
    cases projection with
    | invariant =>
      obtain ⟨offset, tail, rfl, htail⟩ := exists_of_typeTokens htokens
      have hstep : step ⟨.read, parent :: outer, ⟨.name type.name, offset⟩ :: tail ++ rest⟩ =
          readNamed (parent :: outer) .invariant (⟨.name type.name, offset⟩ :: tail ++ rest) := by
        simp [step, readStep, peekName?_of_clause htail hrest]
      rw [hstep]
      exact result_readNamed type (parent :: outer) .invariant htokens hrest
    | covariant | contravariant =>
      simp only [projectionTokens, List.cons_append, List.nil_append, List.map_eq_cons_iff]
        at htokens
      obtain ⟨⟨_, offset⟩, tail, rfl, rfl, htail⟩ := htokens
      rw [← result_readNamed type (parent :: outer) _ htail hrest]
      obtain ⟨offset', tail, rfl, -⟩ := exists_of_typeTokens htail
      rfl

theorem run_rest (arguments : List TypeArg) {tokens marks rest : List Located} {nullable : Bool}
    (argument : TypeArg) (parent : OpenType) (outer : List OpenType)
    (htokens : tokens.map Located.token = restTokens arguments)
    (hmarks : marks.map Located.token = markTokens nullable) (hrest : EndsType rest) :
    run ⟨.place argument, parent :: outer, tokens ++ (marks ++ rest)⟩ =
      run ⟨.place (.projected parent.projection (.mk parent.name nullable
        (parent.reversed.reverse ++ argument :: arguments))), outer, rest⟩ := by
  cases arguments with
  | nil =>
    rw [restTokens, List.map_eq_singleton_iff] at htokens
    obtain ⟨⟨_, offset⟩, rfl, rfl⟩ := htokens
    apply run_eq_of_step
    simp [step, placeStep, push, OpenType.closed, takeQuestion_append hmarks hrest]
  | cons next others =>
    simp only [restTokens, List.map_eq_cons_iff, List.map_eq_append_iff] at htokens
    obtain ⟨⟨_, offset⟩, _, rfl, rfl, nextTokens, othersTokens, rfl, hnext, hothers⟩ := htokens
    have hends := endsType_of_restTokens hothers (marks ++ rest)
    have hargument := run_argument next { parent with reversed := argument :: parent.reversed }
      outer hnext hends
    have hfollowing := run_rest others next
      { parent with reversed := argument :: parent.reversed }
      outer hothers hmarks hrest
    simp only [List.reverse_cons, List.append_assoc, List.cons_append, List.nil_append]
      at hfollowing
    rw [← hfollowing, ← hargument, List.cons_append, List.append_assoc]
    exact run_eq_of_step rfl

end

/-- The reader ends with a type whose tokens it is given. -/
theorem run_start {type : TypeRef} {tokens rest : List Located}
    (htokens : tokens.map Located.token = typeTokens type) (hrest : peek rest = .finish) :
    (start (tokens ++ rest)).run = .ok type := by
  have hresult := result_readNamed type [] .invariant htokens (.inr (.inr hrest))
  have hstep : (start (tokens ++ rest)).step = readNamed [] .invariant (tokens ++ rest) := by
    obtain ⟨offset, tail, rfl, -⟩ := exists_of_typeTokens htokens
    rfl
  rw [run_eq_result, hstep, hresult]
  apply run_eq_of_stop
  simp [step, placeStep, hrest]

end Reader

end FunctionForge.TypeExpr
