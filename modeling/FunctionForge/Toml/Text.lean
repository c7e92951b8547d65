import FunctionForge.Toml.Scalar
import FunctionForge.Toml.Token

/-!
# The text of values

A string is written in the first of the five ways that reads well: basic if nothing needs a
backslash, then literal, then over several lines, and basic with backslashes if all else fails.
Tables are written in braces and arrays in brackets, all on one line.
-/

namespace FunctionForge.Toml

open Text

/-- The most times a character stands in a row. -/
def longestRun (c : Char) (text : List Char) : Nat :=
  (text.foldl (fun (best, here) d => if d = c then (max best (here + 1), here + 1) else (best, 0))
    (0, 0)).1

/-- Whether a text has a character that is only written with a backslash; the ends of lines are
none. -/
def hasControl (text : List Char) : Bool := text.any fun c => isControl c && c ≠ '\n'

def hexDigit (n : Nat) : Char := Char.ofNat (if n < 10 then '0'.toNat + n else 'A'.toNat + n - 10)

/-- A character with a backslash, if it needs one. The ends of lines and quotes depend on the
string. -/
def escape? (c : Char) : Option (List Char) :=
  if c = '\x08' then some ['\\', 'b']
  else if c = '\t' then some ['\\', 't']
  else if c = '\x0c' then some ['\\', 'f']
  else if c = '\r' then some ['\\', 'r']
  else if c = '\\' then some ['\\', '\\']
  else if isControl c && c ≠ '\n' then
    some ['\\', 'u', '0', '0', hexDigit (c.toNat / 16), hexDigit (c.toNat % 16)]
  else none

/-- The characters of a basic string. Some quotes in a row may stand as they are, and this many did.
-/
def basicBody (long : Bool) (allowed quotes : Nat) : List Char → List Char
  | [] => []
  | c :: rest =>
    if c = '"' then
      if quotes < allowed then c :: basicBody long allowed (quotes + 1) rest
      else '\\' :: c :: basicBody long allowed 0 rest
    else if c = '\n' && !long then '\\' :: 'n' :: basicBody long allowed 0 rest
    else (escape? c).getD [c] ++ basicBody long allowed 0 rest

def basicText (text : List Char) : List Char := '"' :: basicBody false 0 0 text ++ ['"']

def literalText (text : List Char) : List Char := '\'' :: text ++ ['\'']

/-- A string between three quotes. Its text starts on a line of its own if it has several. -/
def longText (quote : Char) (text body : List Char) : List Char :=
  List.replicate 3 quote ++ (if text.contains '\n' then ['\n'] else []) ++ body ++
    List.replicate 3 quote

/-- A basic string between three quotes. -/
def longBasicText (text : List Char) : List Char := longText '"' text (basicBody true 2 0 text)

/-- Whether a basic string on one line reads well. -/
def isPlain (text : List Char) : Bool :=
  text.all fun c => !isControl c && c ≠ '"' && c ≠ '\\'

/-- Whether a text may be written as a literal string on one line. -/
def isLiteral (text : List Char) : Bool := text.all fun c => !isControl c && c ≠ '\''

def stringText (text : List Char) : List Char :=
  if isPlain text then basicText text
  else if isLiteral text then literalText text
  else if !hasControl text && !text.contains '\\' && longestRun '"' text ≤ 2 then
    longBasicText text
  else if !hasControl text && longestRun '\'' text ≤ 2 then longText '\'' text text
  else if text.contains '\n' then longBasicText text
  else basicText text

def keyText (key : List Char) : List Char :=
  if isBareKey key then key
  else if isPlain key then basicText key
  else if isLiteral key then literalText key
  else basicText key

def joined (separator : List Char) : List (List Char) → List Char
  | [] => []
  | [text] => text
  | text :: rest => text ++ separator ++ joined separator rest

mutual

/-- The text of a value. A number that is none or is too large has no text. -/
def Value.text? : Value → Option (List Char)
  | .string s => some (stringText s.toList)
  | .integer n => n.map fun n => (toString n).toList
  | .real x => x.rounded?.map fun number => number.text.toList
  | .boolean b => some (toString b).toList
  | .datetime d => some d.text.toList
  | .array items => do
    return '[' :: joined [',', ' '] (← textsOf? items) ++ [']']
  | .table [] => some ['{', '}']
  | .table (entry :: rest) => do
    return ['{', ' '] ++ joined [',', ' '] (← entryTextsOf? (entry :: rest)) ++ [' ', '}']

def textsOf? : List Value → Option (List (List Char))
  | [] => some []
  | v :: rest => do return (← v.text?) :: (← textsOf? rest)

/-- The texts of the entries of a table. -/
def entryTextsOf? : List (String × Value) → Option (List (List Char))
  | [] => some []
  | (key, v) :: rest => do
    return (keyText key.toList ++ [' ', '=', ' '] ++ (← v.text?)) :: (← entryTextsOf? rest)

end

end FunctionForge.Toml
