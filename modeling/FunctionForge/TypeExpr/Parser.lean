import FunctionForge.TypeExpr.Basic
import FunctionForge.TypeExpr.Token

/-!
# Reading type expressions

The reader keeps a stack of the generic types whose argument lists are still open, so nesting is
bounded by memory and not by recursion. Each of its steps consumes a token, which is why it stops.
-/

namespace FunctionForge.TypeExpr

/-- A generic type whose argument list is still being read. Its arguments are kept latest first. -/
structure OpenType where
  projection : Projection
  name : String
  reversed : List TypeArg

def OpenType.closed (t : OpenType) (nullable : Bool) : TypeArg :=
  .projected t.projection (.mk t.name nullable t.reversed.reverse)

/-- What the reader does next: read a type or a star, or place an argument that is complete. -/
inductive Task where
  | read
  | place (argument : TypeArg)

/-- The reader between two steps: its task, the open types with the innermost first, and the tokens
not yet consumed. -/
structure Reader where
  task : Task
  opened : List OpenType
  tokens : List Located

namespace Reader

def peek (tokens : List Located) : Token :=
  match tokens with
  | [] => .finish
  | next :: _ => next.token

/-- The next token, if it is a name. -/
def peekName? (tokens : List Located) : Option String :=
  match peek tokens with
  | .name n => some n
  | _ => none

/-- Consumes a question mark if it comes next, and tells whether it did. -/
def takeQuestion : List Located → Bool × List Located
  | [] => (false, [])
  | next :: rest => if next.token = .question then (true, rest) else (false, next :: rest)

def refuse (fault : Token → Fault) (tokens : List Located) : ParseError :=
  match tokens with
  | [] => ⟨fault .finish, 0⟩
  | next :: _ => ⟨fault next.token, next.offset⟩

/-- The projection that a word stands for in front of a type name. -/
def projectionWord? : String → Option Projection
  | "out" => some .covariant
  | "in" => some .contravariant
  | _ => none

/-- The outcome of a step: the reader goes on, or it stops with a type or an error. -/
inductive Outcome where
  | next (reader : Reader)
  | stop (result : Except ParseError TypeRef)

/-- Reads the name of a type after its projection, and either opens its argument list or completes
it. -/
def readNamed (opened : List OpenType) (projection : Projection) (tokens : List Located) :
    Outcome :=
  match tokens with
  | ⟨.name n, _⟩ :: ⟨.opening, _⟩ :: rest => .next ⟨.read, ⟨projection, n, []⟩ :: opened, rest⟩
  | ⟨.name n, _⟩ :: rest =>
    .next ⟨.place (.projected projection (.mk n (takeQuestion rest).1 [])), opened,
      (takeQuestion rest).2⟩
  | _ => .stop (.error (refuse .lostName tokens))

/-- Reads a star or the start of a type. Stars and projections stand only inside an argument list.
-/
def readStep (opened : List OpenType) (tokens : List Located) : Outcome :=
  match tokens with
  | ⟨.star, _⟩ :: rest =>
    if opened.isEmpty then .stop (.error (refuse (.mismatch .typeName) tokens))
    else .next ⟨.place .star, opened, rest⟩
  | ⟨.name n, _⟩ :: rest =>
    if !opened.isEmpty && (peekName? rest).isSome then
      match projectionWord? n with
      | some projection => readNamed opened projection rest
      | none => .stop (.error (refuse (.mismatch .projectionOrName) tokens))
    else readNamed opened .invariant tokens
  | _ =>
    .stop (.error (refuse (.mismatch (if opened.isEmpty then .typeName else .argument)) tokens))

def push (argument : TypeArg) : List OpenType → List OpenType
  | [] => []
  | parent :: outer => { parent with reversed := argument :: parent.reversed } :: outer

/-- Places an argument at the end of the innermost open list, which must go on or close after it.
With no open list the argument is the whole type, and the text must end. -/
def placeStep (argument : TypeArg) (opened : List OpenType) (tokens : List Located) : Outcome :=
  match opened with
  | [] =>
    if peek tokens = .finish then
      match argument with
      | .projected .invariant type => .stop (.ok type)
      | _ => .stop (.error ⟨.projectedRoot, 0⟩)
    else .stop (.error (refuse (.mismatch .finish) tokens))
  | _ :: _ =>
    match tokens with
    | ⟨.comma, _⟩ :: rest => .next ⟨.read, push argument opened, rest⟩
    | ⟨.closing, _⟩ :: rest =>
      match push argument opened with
      | [] => .stop (.error (refuse .unopenedClosing rest))
      | closed :: outer =>
        .next ⟨.place (closed.closed (takeQuestion rest).1), outer, (takeQuestion rest).2⟩
    | _ => .stop (.error (refuse (.mismatch .commaOrClosing) tokens))

def step (reader : Reader) : Outcome :=
  match reader.task with
  | .read => readStep reader.opened reader.tokens
  | .place argument => placeStep argument reader.opened reader.tokens

theorem takeQuestion_length_le (tokens : List Located) :
    (takeQuestion tokens).2.length ≤ tokens.length := by
  unfold takeQuestion
  split
  · simp
  · split <;> simp

private theorem readNamed_shorter {opened : List OpenType} {projection : Projection}
    {tokens : List Located} {after : Reader}
    (h : readNamed opened projection tokens = .next after) :
    after.tokens.length < tokens.length := by
  unfold readNamed at h
  split at h
  · injection h with h
    subst h
    simp only [List.length_cons]
    omega
  · injection h with h
    subst h
    exact Nat.lt_succ_of_le (takeQuestion_length_le _)
  · simp at h

/-- A step that goes on has consumed a token. -/
theorem step_shorter {reader after : Reader} (h : reader.step = .next after) :
    after.tokens.length < reader.tokens.length := by
  obtain ⟨task, opened, tokens⟩ := reader
  cases task with
  | read =>
    simp only [step, readStep] at h
    split at h
    · split at h
      · simp at h
      · injection h with h
        subst h
        simp
    · split at h
      · split at h
        · exact Nat.lt_trans (readNamed_shorter h) (by simp)
        · simp at h
      · exact readNamed_shorter h
    · simp at h
  | place argument =>
    simp only [step, placeStep] at h
    split at h
    · split at h
      · split at h <;> simp at h
      · simp at h
    · split at h
      · injection h with h
        subst h
        simp
      · split at h
        · simp at h
        · injection h with h
          subst h
          exact Nat.lt_succ_of_le (takeQuestion_length_le _)
      · simp at h

/-- Steps until the reader stops. -/
def run (reader : Reader) : Except ParseError TypeRef :=
  match _hstep : reader.step with
  | .next after => run after
  | .stop result => result
termination_by reader.tokens.length
decreasing_by exact step_shorter _hstep

def start (tokens : List Located) : Reader := ⟨.read, [], tokens⟩

end Reader

/-- Reads a type expression. -/
def parse (source : String) : Except ParseError TypeRef :=
  match scan 0 source.toList with
  | .error e => .error e
  | .ok tokens => (Reader.start tokens).run

end FunctionForge.TypeExpr
