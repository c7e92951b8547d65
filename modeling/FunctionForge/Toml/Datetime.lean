import FunctionForge.Text.Basic

/-!
# Dates and times

A date, a time of day, or both with or without an offset from universal time. The fraction of a
second is kept to nine digits, and is written without zeros at its end. Seconds may be left out and
are then zero.
-/

namespace FunctionForge.Toml

open Text

/-- A day of a year. -/
structure Date where
  year : Nat
  month : Nat
  day : Nat
  deriving DecidableEq, Repr

namespace Date

def isLeap (year : Nat) : Bool := year % 4 = 0 && (year % 100 ≠ 0 || year % 400 = 0)

def daysIn (year month : Nat) : Nat :=
  if month = 2 then (if isLeap year then 29 else 28)
  else if month = 4 || month = 6 || month = 9 || month = 11 then 30
  else 31

def isValid (date : Date) : Bool :=
  1 ≤ date.month && date.month ≤ 12 && 1 ≤ date.day && date.day ≤ daysIn date.year date.month

/-- A date as year, month and day. -/
def text (date : Date) : List Char :=
  padded 4 date.year ++ '-' :: padded 2 date.month ++ '-' :: padded 2 date.day

end Date

/-- A time of day with the billionths of its second. -/
structure Time where
  hour : Nat
  minute : Nat
  second : Nat
  nanosecond : Nat
  deriving DecidableEq, Repr

namespace Time

/-- Whether a time exists. A minute may end with a leap second. -/
def isValid (time : Time) : Bool := time.hour ≤ 23 && time.minute ≤ 59 && time.second ≤ 60

/-- The fraction of the second with its point, nothing if it is zero. -/
def fractionText (time : Time) : List Char :=
  if time.nanosecond = 0 then [] else '.' :: trimZeros (padded 9 time.nanosecond)

/-- A time as hour, minute, second and fraction. -/
def text (time : Time) : List Char :=
  padded 2 time.hour ++ ':' :: padded 2 time.minute ++ ':' :: padded 2 time.second ++
    time.fractionText

end Time

/-- An offset from universal time in minutes, or universal time itself. -/
inductive Offset where
  | universal
  | minutes (n : Int)
  deriving DecidableEq, Repr

/-- An offset as a letter or as signed hours and minutes. -/
def Offset.text : Offset → List Char
  | universal => ['Z']
  | minutes n =>
    (if n < 0 then '-' else '+') :: padded 2 (n.natAbs / 60) ++ ':' :: padded 2 (n.natAbs % 60)

/-- A point in time, as far as it is stated. -/
inductive Datetime where
  | date (date : Date)
  | time (time : Time)
  | moment (date : Date) (time : Time)
  | placed (date : Date) (time : Time) (offset : Offset)
  deriving DecidableEq, Repr

namespace Datetime

def text : Datetime → String
  | date d => String.ofList d.text
  | time t => String.ofList t.text
  | moment d t => String.ofList (d.text ++ 'T' :: t.text)
  | placed d t offset => String.ofList (d.text ++ 'T' :: t.text ++ offset.text)

def two? (a b : Char) : Option Nat := number? 10 [a, b]

def readDate? : List Char → Option (Date × List Char)
  | y₁ :: y₂ :: y₃ :: y₄ :: '-' :: m₁ :: m₂ :: '-' :: d₁ :: d₂ :: rest => do
    let date : Date := ⟨← number? 10 [y₁, y₂, y₃, y₄], ← two? m₁ m₂, ← two? d₁ d₂⟩
    guard date.isValid
    return (date, rest)
  | _ => none

/-- The billionths that the digits of a fraction state. Digits after the ninth are dropped. -/
def nanoseconds? (digits : List Char) : Option Nat := do
  guard (digits ≠ [])
  let n ← number? 10 (digits.take 9)
  return n * Nat.pow 10 (9 - (digits.take 9).length)

/-- Reads the seconds and their fraction, if there are any, and what follows. -/
def readSecond? : List Char → Option (Nat × Nat × List Char)
  | ':' :: s₁ :: s₂ :: '.' :: rest => do
    let digits := rest.takeWhile isDigit
    return (← two? s₁ s₂, ← nanoseconds? digits, rest.dropWhile isDigit)
  | ':' :: s₁ :: s₂ :: rest => do return (← two? s₁ s₂, 0, rest)
  | rest => some (0, 0, rest)

def readTime? : List Char → Option (Time × List Char)
  | h₁ :: h₂ :: ':' :: m₁ :: m₂ :: rest => do
    let (second, nanosecond, rest) ← readSecond? rest
    let time : Time := ⟨← two? h₁ h₂, ← two? m₁ m₂, second, nanosecond⟩
    guard time.isValid
    return (time, rest)
  | _ => none

def offsetMinutes? (negative : Bool) : List Char → Option Int
  | [h₁, h₂, ':', m₁, m₂] => do
    let hours ← two? h₁ h₂
    let minutes ← two? m₁ m₂
    guard (hours ≤ 23 ∧ minutes ≤ 59)
    let total : Int := (hours * 60 + minutes : Nat)
    return if negative then -total else total
  | _ => none

def offset? : List Char → Option Offset
  | ['Z'] | ['z'] => some .universal
  | '+' :: rest => (offsetMinutes? false rest).map .minutes
  | '-' :: rest => (offsetMinutes? true rest).map .minutes
  | _ => none

def ofText? (text : List Char) : Option Datetime :=
  match readDate? text with
  | some (d, []) => some (date d)
  | some (d, separator :: rest) => do
    guard (separator = 'T' ∨ separator = 't' ∨ separator = ' ')
    match ← readTime? rest with
    | (t, []) => return moment d t
    | (t, rest) => return placed d t (← offset? rest)
  | none => do
    let (t, rest) ← readTime? text
    guard (rest = [])
    return time t

end Datetime

end FunctionForge.Toml
