import FunctionForge.Binary64
import FunctionForge.Text.Basic
import FunctionForge.Toml.Datetime

/-!
# Values and bare words

Integers and floating-point numbers are kept as written out exactly: an integer of any size, and a
decimal that has not been rounded. Whoever asks for a number decides what is too large, and only
then it matters that a word in the form of an integer states none.

A value without quotes is a truth value, a number, or a point in time. Underscores may stand between
the digits of a number, and a decimal number has no zeros in front. The form of a word decides what
it is before its digits are read. An integer of a base may have no digits at all, and around the
underscores of any integer the letters of base sixteen pass for digits, so some words have the form
of an integer and state none.
-/

namespace FunctionForge.Toml

/-! ### Values -/

/-- A floating-point number before it is rounded. -/
inductive Real where
  | nan
  | infinite (negative : Bool)
  | decimal (negative : Bool) (digits : Nat) (exponent : Int)
  deriving DecidableEq, Repr

/-- The nearest floating-point number, none if the decimal is too large for one. -/
def Real.rounded? : Real → Option Binary64
  | nan => some .nan
  | infinite negative => some (.infinite negative)
  | decimal negative digits exponent =>
    (Binary64.ofDecimal digits exponent).map fun (mantissa, exponent) =>
      .finite negative mantissa exponent

/-- A value. The entries of a table are sorted by key. -/
inductive Value where
  | string (s : String)
  /-- An integer, none if the word for it has the form of one but states none. -/
  | integer (n : Option Int)
  | real (x : Real)
  | boolean (b : Bool)
  | datetime (d : Datetime)
  | array (items : List Value)
  | table (entries : List (String × Value))

instance : Inhabited Value := ⟨.array []⟩

/-! ### Bare words -/

open Text

/-- A word without its sign, and whether the sign is a minus. -/
def unsigned : List Char → Bool × List Char
  | '-' :: rest => (true, rest)
  | '+' :: rest => (false, rest)
  | word => (false, word)

/-- Whether a character is a digit of base sixteen. -/
def isHexDigit (c : Char) : Bool := (digit? 16 c).isSome

/-- Whether an underscore may stand between two texts: it goes before a digit and follows one. The
text in front of the first underscore may also be a sign alone. -/
def mayJoin (isDigit : Char → Bool) (left right : List Char) : Bool :=
  (left.length = 1 || left.getLast?.any isDigit) && right.head?.any isDigit

/-- A word without its underscores, none if one of them is out of place. -/
def withoutUnderscores? (isDigit : Char → Bool) (word : List Char) : Option (List Char) :=
  let groups := splitAt '_' word
  if (groups.zip groups.tail).all fun (left, right) => mayJoin isDigit left right then
    some groups.flatten
  else none

/-- The integer that digits of a base state, none if there are no digits or something else. -/
def integer? (negative : Bool) (base : Nat) (digits : List Char) : Option Int := do
  guard (digits ≠ [])
  let n ← number? base digits
  return if negative then -(n : Int) else n

/-- The value of a word in the form of an integer of a base, from the text after the mark of the
base. -/
def basedInteger? (base : Nat) (text : List Char) : Option Value := do
  guard (text.all fun c => c = '_' || (digit? base c).isSome)
  return .integer (integer? false base (← withoutUnderscores? isHexDigit text))

def decimalInteger? (word : List Char) : Option Value := do
  let number := (unsigned word).2
  guard (number = ['0'] ∨ number.head?.any (· ≠ '0'))
  let (negative, digits) := unsigned (← withoutUnderscores? isHexDigit word)
  return .integer (integer? negative 10 digits)

/-- Whether a character starts an exponent. -/
def isExponentMark (c : Char) : Bool := c = 'e' || c = 'E'

def digits? (text : List Char) : Option (List Char) :=
  if text ≠ [] && text.all isDigit then some text else none

/-- The digits of a fraction with its point; nothing has none. -/
def fraction? : List Char → Option (List Char)
  | [] => some []
  | _ :: text => digits? text

/-- The exponent that a text with its letter states; nothing states zero. -/
def exponent? : List Char → Option Int
  | [] => some 0
  | _ :: text =>
    let (negative, digits) := unsigned text
    integer? negative 10 digits

/-- The floating-point number that a word states: digits with a fraction, an exponent, or both. -/
def real? (word : List Char) : Option Real := do
  let (negative, number) := unsigned (← withoutUnderscores? isDigit word)
  let mantissa := number.takeWhile (!isExponentMark ·)
  let whole ← digits? (mantissa.takeWhile (· ≠ '.'))
  guard ((unsigned word).2.head? ≠ some '0' ∨ whole = ['0'])
  let fraction ← fraction? (mantissa.dropWhile (· ≠ '.'))
  let exponent ← exponent? (number.dropWhile (!isExponentMark ·))
  return .decimal negative (← number? 10 (whole ++ fraction)) (exponent - fraction.length)

/-- The value of a word of digits. What follows the first digits tells a point in time, a
floating-point number and an integer apart. -/
def digitsValue? (word : List Char) : Option Value :=
  match (unsigned word).2.dropWhile isDigit with
  | [] => decimalInteger? word
  | c :: rest =>
    if c = '-' || c = ':' then (Datetime.ofText? word).map .datetime
    else if (c :: rest).contains ' ' then none
    else if (c :: rest).any fun c => c = '.' || isExponentMark c then (real? word).map .real
    else if c = '_' then decimalInteger? word
    else none

def scalar? (word : List Char) : Option Value :=
  let (negative, number) := unsigned word
  if word = ['t', 'r', 'u', 'e'] then some (.boolean true)
  else if word = ['f', 'a', 'l', 's', 'e'] then some (.boolean false)
  else if number = ['i', 'n', 'f'] then some (.real (.infinite negative))
  else if number = ['n', 'a', 'n'] then some (.real .nan)
  else
    match word with
    | '0' :: 'x' :: text => basedInteger? 16 text
    | '0' :: 'o' :: text => basedInteger? 8 text
    | '0' :: 'b' :: text => basedInteger? 2 text
    | _ => digitsValue? word

def isBareKeyPart (c : Char) : Bool :=
  isDigit c || ('a' ≤ c && c ≤ 'z') || ('A' ≤ c && c ≤ 'Z') || c = '_' || c = '-'

def isBareKey (text : List Char) : Bool := !text.isEmpty && text.all isBareKeyPart

end FunctionForge.Toml
