import FunctionForge.Text.Basic

/-!
# Binary floating point

A finite number is a sign and a magnitude `mantissa * 2 ^ exponent`, with at most 53 bits in the
mantissa. A decimal is read as the nearest number, and as the one with the even mantissa if two are
as near. A number is written with the fewest decimal digits that are read as the same number.

Magnitudes are ratios of naturals while they are rounded, so nothing is lost before the one rounding
step.
-/

namespace FunctionForge

/-- A floating-point number. -/
inductive Binary64 where
  | nan
  | infinite (negative : Bool)
  | finite (negative : Bool) (mantissa : Nat) (exponent : Int)
  deriving DecidableEq, Repr

/-- A positive magnitude `numerator / denominator`. -/
structure Ratio where
  numerator : Nat
  denominator : Nat

namespace Ratio

def scale (base : Nat) (r : Ratio) : Int → Ratio
  | .ofNat n => { r with numerator := r.numerator * Nat.pow base n }
  | .negSucc n => { r with denominator := r.denominator * Nat.pow base (n + 1) }

def isAtLeast (r : Ratio) (n : Nat) : Bool := n * r.denominator ≤ r.numerator

/-- The natural number nearest to a ratio, the even one if two are as near. -/
def round (r : Ratio) : Nat :=
  let floor := r.numerator / r.denominator
  let rest := r.numerator % r.denominator
  if 2 * rest > r.denominator || (2 * rest == r.denominator && floor % 2 == 1) then floor + 1
  else floor

/-- The number of digits before the decimal point, negative if zeros follow the point. -/
def decimalPoint (r : Ratio) : Int :=
  let guess : Int := (Text.decimal r.numerator).length - (Text.decimal r.denominator).length
  if (r.scale 10 (-guess)).isAtLeast 1 then guess + 1 else guess

end Ratio

namespace Binary64

/-- The mantissas are below this bound. -/
def mantissaBound : Nat := Nat.pow 2 53

def leastExponent : Int := -1074

def greatestExponent : Int := 971

/-- The exponent of the mantissa that a magnitude has: with 53 bits, or the least one. -/
def exponentOf (r : Ratio) : Int :=
  let guess : Int := (r.numerator.log2 : Int) - r.denominator.log2 - 53
  let fit := if (r.scale 2 (-guess)).isAtLeast mantissaBound then guess + 1 else guess
  max fit leastExponent

/-- The mantissa and exponent nearest to a magnitude, none if it is too large. -/
def nearest (r : Ratio) : Option (Nat × Int) :=
  let exponent := exponentOf r
  let mantissa := (r.scale 2 (-exponent)).round
  let (mantissa, exponent) :=
    if mantissa = mantissaBound then (mantissaBound / 2, exponent + 1) else (mantissa, exponent)
  if exponent > greatestExponent then none else some (mantissa, exponent)

/-- The mantissa and exponent nearest to `digits * 10 ^ exponent`, none if that is too large. A
decimal with its point far out is decided by the position of the point. -/
def ofDecimal (digits : Nat) (exponent : Int) : Option (Nat × Int) :=
  let point := (Text.decimal digits).length + exponent
  if digits = 0 || point < -330 then some (0, leastExponent)
  else if point > 310 then none
  else nearest ((Ratio.mk digits 1).scale 10 exponent)

/-- The nearest of the decimals with a number of digits that are read as the magnitude, as its
digits and the exponent of ten. The upper one is taken if two are as near. -/
def decimalOf? (mantissa : Nat) (exponent : Int) (r : Ratio) (digits : Nat) : Option (Nat × Int) :=
  let unit := r.decimalPoint - digits
  let scaled := r.scale 10 (-unit)
  let floor := scaled.numerator / scaled.denominator
  let rest := scaled.numerator % scaled.denominator
  let reads (n : Nat) : Bool := ofDecimal n unit == some (mantissa, exponent)
  if rest > 0 && reads (floor + 1) && (2 * rest ≥ scaled.denominator || !reads floor) then
    some (floor + 1, unit)
  else if reads floor then some (floor, unit)
  else none

/-- The fewest digits that are read as a magnitude above zero, and the exponent of ten. Seventeen
digits are always enough. -/
def shortest (mantissa : Nat) (exponent : Int) : Nat × Int :=
  let r := (Ratio.mk mantissa 1).scale 2 exponent
  ((List.range' 1 17).findSome? (decimalOf? mantissa exponent r)).getD (mantissa, exponent)

/-- Digits with a decimal point, without zeros at the end of the fraction. An integer has no point.
-/
def placed (digits : List Char) (exponent : Int) : List Char :=
  match exponent with
  | .ofNat n => digits ++ List.replicate n '0'
  | .negSucc n =>
    let width := n + 1
    let wide := List.replicate (width + 1 - digits.length) '0' ++ digits
    wide.take (wide.length - width) ++ '.' :: wide.drop (wide.length - width)

/-- The decimal text of a magnitude. An integer has a zero after the point. -/
def magnitudeText (mantissa : Nat) (exponent : Int) : List Char :=
  if mantissa = 0 then ['0', '.', '0']
  else
    let (digits, unit) := shortest mantissa exponent
    let kept := Text.trimZeros (Text.decimal digits)
    let text := placed kept (unit + ((Text.decimal digits).length - kept.length : Nat))
    if text.contains '.' then text else text ++ ['.', '0']

def signText (negative : Bool) : String := if negative then "-" else ""

def text : Binary64 → String
  | nan => "nan"
  | infinite negative => signText negative ++ "inf"
  | finite negative mantissa exponent =>
    signText negative ++ String.ofList (magnitudeText mantissa exponent)

end Binary64

end FunctionForge
