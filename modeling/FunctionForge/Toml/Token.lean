import FunctionForge.Text.Basic

/-!
# Tokens of documents

A document is read one character at a time. What has been read of an unfinished token is the state
of the scanner, so a state, a character and the next state are all there is to it.

A carriage return only counts as part of the end of a line, and a document with a carriage return
anywhere else is refused before it is scanned. Where the scanner meets one, a line feed follows.
-/

namespace FunctionForge.Toml

/-- A token of a document. Comments are no tokens. -/
inductive Token where
  /-- One of the marks `.`, `=`, `,`, `[`, `]`, `{` and `}`. -/
  | mark (c : Char)
  | blank (c : Char)
  | newline
  | bare (text : List Char)
  | string (text : String) (oneLine : Bool)
  deriving DecidableEq, Repr

def isMark (c : Char) : Bool := ['.', '=', ',', '[', ']', '{', '}'].contains c

/-- Whether a character may not stand in strings and comments. -/
def isControl (c : Char) : Bool := (c < ' ' && c ≠ '\t') || c = '\x7f'

/-- A string that is being read. -/
structure Quoted where
  quote : Char
  /-- Whether it is written with three quotes and may have several lines. -/
  long : Bool
  /-- The characters read, the last one first. -/
  read : List Char
  deriving DecidableEq, Repr

namespace Quoted

def push (text : Quoted) (c : Char) : Quoted := { text with read := c :: text.read }

def pushQuotes (text : Quoted) (n : Nat) : Quoted :=
  { text with read := List.replicate n text.quote ++ text.read }

def token (text : Quoted) : Token := .string (String.ofList text.read.reverse) (!text.long)

end Quoted

/-- Where a scanner stands. -/
inductive Scanner where
  | outside
  | comment
  /-- In a bare word; the characters read, the last one first. -/
  | bare (read : List Char)
  /-- After one or two quotes that start a token. -/
  | opened (quote : Char) (count : Nat)
  /-- After three quotes that start a string. The end of a line is dropped here. -/
  | started (quote : Char)
  | inside (text : Quoted)
  /-- After quotes in a string of several lines, which may end it or belong to it. -/
  | closing (text : Quoted) (count : Nat)
  | escaped (text : Quoted)
  /-- In the digits of a character code, some of which are left. -/
  | coded (text : Quoted) (left : Nat) (value : Nat)
  /-- After a backslash at the end of a line, where blanks and ends of lines are dropped. -/
  | folding (text : Quoted) (broken : Bool)
  deriving DecidableEq, Repr

namespace Scanner

/-- What a scanner reads from a character: the tokens that it ends, and where the scanner then
stands. -/
abbrev Reading := List Token × Scanner

def outsideStep (c : Char) : Reading :=
  if isMark c then ([.mark c], outside)
  else if c = ' ' || c = '\t' then ([.blank c], outside)
  else if c = '\n' then ([.newline], outside)
  else if c = '\r' then ([], outside)
  else if c = '#' then ([], comment)
  else if c = '"' || c = '\'' then ([], opened c 1)
  else ([], bare [c])

def after (tokens : List Token) (c : Char) : Reading :=
  (tokens ++ (outsideStep c).1, (outsideStep c).2)

def endsBare (c : Char) : Bool :=
  isMark c || c = ' ' || c = '\t' || c = '\n' || c = '\r' || c = '#'

/-- The reading of a character in a string. -/
def insideStep (text : Quoted) (c : Char) : Option Reading :=
  if c = text.quote then
    if text.long then some ([], closing text 1) else some ([text.token], outside)
  else if c = '\\' && text.quote = '"' then some ([], escaped text)
  else if isControl c && !(text.long && (c = '\n' || c = '\r')) then none
  else some ([], inside (text.push c))

/-- The character that a letter after a backslash stands for. -/
def escape? : Char → Option Char
  | 'b' => some '\x08'
  | 't' => some '\t'
  | 'n' => some '\n'
  | 'f' => some '\x0c'
  | 'r' => some '\r'
  | 'e' => some '\x1b'
  | '"' => some '"'
  | '\\' => some '\\'
  | _ => none

/-- The number of digits of the code that a letter after a backslash announces. -/
def codeLength? : Char → Option Nat
  | 'x' => some 2
  | 'u' => some 4
  | 'U' => some 8
  | _ => none

/-- The reading of a character after a backslash. -/
def escapedStep (text : Quoted) (c : Char) : Option Reading :=
  match escape? c, codeLength? c with
  | some meant, _ => some ([], inside (text.push meant))
  | none, some length => some ([], coded text length 0)
  | none, none =>
    if text.long && (c = ' ' || c = '\t' || c = '\r') then some ([], folding text false)
    else if text.long && c = '\n' then some ([], folding text true)
    else none

/-- The reading of a digit of a character code. The last one ends the code, which must be a
character. -/
def codedStep (text : Quoted) (left value : Nat) (c : Char) : Option Reading := do
  let value := 16 * value + (← Text.digit? 16 c)
  if left = 1 then
    guard value.isValidChar
    return ([], inside (text.push (Char.ofNat value)))
  else return ([], coded text (left - 1) value)

def step (scanner : Scanner) (c : Char) : Option Reading :=
  match scanner with
  | outside => some (outsideStep c)
  | comment =>
    if c = '\n' then some ([.newline], outside)
    else if isControl c && c ≠ '\r' then none
    else some ([], comment)
  | bare read =>
    if endsBare c then some (after [.bare read.reverse] c) else some ([], bare (c :: read))
  | opened quote count =>
    if c = quote then some ([], if count = 1 then opened quote 2 else started quote)
    else if count = 1 then insideStep ⟨quote, false, []⟩ c
    else some (after [.string "" true] c)
  | started quote =>
    if c = '\r' then some ([], started quote)
    else if c = '\n' then some ([], inside ⟨quote, true, []⟩)
    else insideStep ⟨quote, true, []⟩ c
  | inside text => insideStep text c
  | closing text count =>
    if c = text.quote then
      some (if count = 4 then ([(text.pushQuotes 2).token], outside)
        else ([], closing text (count + 1)))
    else if count < 3 then insideStep (text.pushQuotes count) c
    else some (after [(text.pushQuotes (count - 3)).token] c)
  | escaped text => escapedStep text c
  | coded text left value => codedStep text left value c
  | folding text broken =>
    if c = ' ' || c = '\t' || c = '\r' then some ([], folding text broken)
    else if c = '\n' then some ([], folding text true)
    else if broken then insideStep text c
    else none

/-- The tokens that the end of the document ends. -/
def finish : Scanner → Option (List Token)
  | outside | comment => some []
  | bare read => some [.bare read.reverse]
  | opened _ 2 => some [.string "" true]
  | closing text count =>
    if count < 3 then none else some [(text.pushQuotes (count - 3)).token]
  | _ => none

/-- Reads a text from where a scanner stands. The tokens read before are given with the last one
first. -/
def run (scanner : Scanner) (tokens : List Token) : List Char → Option (List Token)
  | [] => scanner.finish.map fun last => tokens.reverse ++ last
  | c :: rest => do
    let (ended, next) ← scanner.step c
    run next (ended.reverse ++ tokens) rest

end Scanner

/-- Whether each carriage return of a text is followed by a line feed. -/
def returnsEndLines : List Char → Bool
  | [] => true
  | '\r' :: '\n' :: rest => returnsEndLines rest
  | '\r' :: _ => false
  | _ :: rest => returnsEndLines rest

def withoutOrderMark : List Char → List Char
  | '\ufeff' :: rest => rest
  | text => text

/-- The tokens of a document, none if it has none. -/
def scan (document : String) : Option (List Token) :=
  let text := withoutOrderMark document.toList
  if returnsEndLines text then Scanner.outside.run [] text else none

end FunctionForge.Toml
