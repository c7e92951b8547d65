import FunctionForge.Control
import FunctionForge.Text.Basic
import FunctionForge.Text.Character

/-!
# Tokens of type expressions

A type expression is read as names, the marks `<`, `>`, `,`, `?`, `*`, and the end of the text. A
name is one or more segments joined by dots with no blanks between them, and is taken as long as
possible.
-/

namespace FunctionForge.TypeExpr

open Text

/-- A token of a type expression. -/
inductive Token where
  | name (spelling : String)
  | opening
  | closing
  | comma
  | question
  | star
  | finish
  deriving DecidableEq, Repr

namespace Token

/-- How a token is called in a message. -/
def describe : Token → String
  | name spelling => "'" ++ spelling ++ "'"
  | opening => "'<'"
  | closing => "'>'"
  | comma => "','"
  | question => "'?'"
  | star => "'*'"
  | finish => "end of input"

/-- The characters that a token is written with. -/
def spelling : Token → List Char
  | name s => s.toList
  | opening => ['<']
  | closing => ['>']
  | comma => [',']
  | question => ['?']
  | star => ['*']
  | finish => []

def ofMark? : Char → Option Token
  | '<' => some opening
  | '>' => some closing
  | ',' => some comma
  | '?' => some question
  | '*' => some star
  | _ => none

end Token

/-- A token with the byte offset at which it starts. -/
structure Located where
  token : Token
  offset : Nat
  deriving DecidableEq, Repr

/-- What a reader of type expressions looked for. -/
inductive Expected where
  | projectionOrName
  | argument
  | typeName
  | commaOrClosing
  | finish
  deriving DecidableEq, Repr

/-- How what was looked for is called in a message. -/
def Expected.describe : Expected → String
  | projectionOrName => "'out', 'in' or a type name"
  | argument => "a type argument"
  | typeName => "a type name"
  | commaOrClosing => "',' or '>'"
  | finish => "end of input"

/-- Why a type expression is refused. The last three guard places that no token list of a text
reaches. -/
inductive Fault where
  | numeralStartsSegment
  | nameEndsWithDot
  | strayCharacter (c : Char)
  | mismatch (expected : Expected) (found : Token)
  | lostName (found : Token)
  | unopenedClosing (found : Token)
  | projectedRoot
  deriving DecidableEq, Repr

def Fault.describe : Fault → String
  | numeralStartsSegment => "name segment cannot start with a digit"
  | nameEndsWithDot => "qualified name cannot end with '.'"
  | strayCharacter c => "unexpected character '" ++ c.toString ++ "'"
  | mismatch expected found => "expected " ++ expected.describe ++ ", found " ++ found.describe
  | lostName found => "expected a type name, found " ++ found.describe
  | unopenedClosing found => "expected ',', found " ++ found.describe
  | projectedRoot => "expected a type name"

/-- A fault and the byte offset at which the text goes wrong. -/
structure ParseError where
  fault : Fault
  offset : Nat
  deriving DecidableEq, Repr

def ParseError.message (e : ParseError) : String :=
  e.fault.describe ++ " at offset " ++ toString e.offset

def startsName (c : Char) : Bool := isLetter c || c == '_'

/-- Whether a character may stand in a segment of a name. -/
def isNamePart (c : Char) : Bool := isLetter c || isNumeral c || c == '_'

/-- Reads the longest name that starts here: its characters and the text after it. While `fresh`
holds, a segment is about to start, and it may not start with a numeral. -/
def readName (fresh : Bool) (offset : Nat) :
    List Char → Except ParseError (List Char × List Char)
  | [] => if fresh then .error ⟨.nameEndsWithDot, offset⟩ else .ok ([], [])
  | c :: rest =>
    if isNamePart c then
      if fresh && isNumeral c then .error ⟨.numeralStartsSegment, offset⟩
      else (readName false (offset + c.utf8Size) rest).map fun (name, after) => (c :: name, after)
    else if fresh then .error ⟨.nameEndsWithDot, offset⟩
    else if c = '.' then
      (readName true (offset + c.utf8Size) rest).map fun (name, after) => (c :: name, after)
    else .ok ([], c :: rest)

/-- A name and the text after it make up the text that was read. -/
theorem append_of_readName {fresh : Bool} {offset : Nat} {text name after : List Char}
    (h : readName fresh offset text = .ok (name, after)) : name ++ after = text := by
  fun_induction readName fresh offset text generalizing name after with
  | case1 => simp at h
  | case2 => simp_all
  | case3 => simp at h
  | case4 fresh offset c rest _ _ ih =>
    obtain ⟨⟨name', after'⟩, hrest, heq⟩ := exists_of_map_eq_ok h
    cases heq
    rw [List.cons_append, ih hrest]
  | case5 => simp at h
  | case6 fresh offset rest _ _ ih =>
    obtain ⟨⟨name', after'⟩, hrest, heq⟩ := exists_of_map_eq_ok h
    cases heq
    rw [List.cons_append, ih hrest]
  | case7 => simp_all

/-- A name that starts with a fresh segment is not empty, so the text after it is shorter. -/
theorem length_lt_of_readName {offset : Nat} {text name after : List Char}
    (h : readName true offset text = .ok (name, after)) : after.length < text.length := by
  have happend := append_of_readName h
  cases name with
  | cons c name =>
    rw [← happend, List.length_append, List.length_cons]
    omega
  | nil =>
    cases text with
    | nil => simp [readName] at h
    | cons c rest =>
      rw [readName] at h
      split at h
      · split at h
        · simp at h
        · obtain ⟨found, -, heq⟩ := exists_of_map_eq_ok h
          cases heq
      · simp at h

/-- The tokens of a text that starts at a byte offset, the end of the text last. -/
def scan (offset : Nat) (text : List Char) : Except ParseError (List Located) :=
  match text with
  | [] => .ok [⟨.finish, offset⟩]
  | c :: rest =>
    if isBlank c then scan (offset + c.utf8Size) rest
    else match Token.ofMark? c with
      | some mark => (scan (offset + c.utf8Size) rest).map (⟨mark, offset⟩ :: ·)
      | none =>
        if startsName c then
          match _hname : readName true offset (c :: rest) with
          | .error e => .error e
          | .ok (name, after) =>
            (scan (offset + byteLength name) after).map (⟨.name (String.ofList name), offset⟩ :: ·)
        else .error ⟨.strayCharacter c, offset⟩
termination_by text.length
decreasing_by
  · simp
  · simp
  · exact length_lt_of_readName _hname

end FunctionForge.TypeExpr
