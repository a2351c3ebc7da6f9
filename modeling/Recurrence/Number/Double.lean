/-
**Double-precision numbers.**

A finite number is a sign and a significand of at most 53 bits times a power of two; the exponent is
at least -1074, and the significand has all its 53 bits unless the exponent is -1074. A decimal
number is read as the nearest double, of two equally near ones that with the even significand.
-/

namespace Recurrence

/-- A number of binary floating point with 53 bits. -/
inductive Double where
  /-- The significand times two to the exponent. -/
  | finite (negative : Bool) (significand : Nat) (exponent : Int)
  | infinite (negative : Bool)
  | notANumber
deriving DecidableEq

/-! ### Rounding -/

/-- The quotient rounded to the nearest integer, a half to the even neighbour. -/
def halfEven (numerator denominator : Nat) : Nat :=
  let quotient := numerator / denominator
  let twice := 2 * (numerator % denominator)
  if twice < denominator then quotient
  else if denominator < twice then quotient + 1
  else quotient + quotient % 2

/-- A power of a base; negative exponents give one. -/
def power (base : Nat) (exponent : Int) : Nat := Nat.pow base exponent.toNat

namespace Double

/-- Zero with a sign. -/
def zero (negative : Bool) : Double := .finite negative 0 (-1074)

/-- A ratio in units of a power of two. -/
def inUnits (numerator denominator : Nat) (exponent : Int) : Nat × Nat :=
  (numerator * power 2 (-exponent), denominator * power 2 exponent)

/-- The double nearest to a ratio. -/
def ofRatio (negative : Bool) (numerator denominator : Nat) : Double :=
  if numerator = 0 then zero negative
  else
    let guess : Int := (numerator.log2 : Int) - denominator.log2 - 52
    let ratio := inUnits numerator denominator guess
    let exponent := max (-1074) (if ratio.1 / ratio.2 < power 2 52 then guess - 1 else guess)
    let ratio := inUnits numerator denominator exponent
    let significand := halfEven ratio.1 ratio.2
    if significand = power 2 53 then
      if 970 < exponent then .infinite negative else .finite negative (power 2 52) (exponent + 1)
    else if 971 < exponent then .infinite negative
    else .finite negative significand exponent

/-- The double nearest to digits times a power of ten. Powers far outside the range of the doubles
are not computed. -/
def ofDecimal (negative : Bool) (digits : Nat) (exponent : Int) : Double :=
  let magnitude := exponent + (Nat.toDigits 10 digits).length
  if digits = 0 ∨ magnitude < -330 then zero negative
  else if 330 < magnitude then .infinite negative
  else ofRatio negative (digits * power 10 exponent) (power 10 (-exponent))

/-- The double nearest to an integer. -/
def ofInt (number : Int) : Double := ofRatio (number < 0) number.natAbs 1

/-! ### Comparison -/

/-- A finite number as an integer times a power of two. -/
def scaled (negative : Bool) (significand : Nat) : Int :=
  if negative then -(significand : Int) else significand

/-- Whether one integer times a power of two is less than another. -/
def scaledLess (first : Int) (firstExponent : Int) (second : Int) (secondExponent : Int) : Bool :=
  first * power 2 (firstExponent - secondExponent) <
    second * power 2 (secondExponent - firstExponent)

/-- Whether a number is less than another; nothing is less or greater than what is not a number. -/
def less : Double → Double → Bool
  | .notANumber, _ | _, .notANumber => false
  | .infinite negative, .infinite other => negative && !other
  | .infinite negative, .finite .. => negative
  | .finite .., .infinite negative => !negative
  | .finite negative significand exponent, .finite negative' significand' exponent' =>
    scaledLess (scaled negative significand) exponent (scaled negative' significand') exponent'

/-- Whether a number is less than an integer. -/
def lessThanInt : Double → Int → Bool
  | .notANumber, _ => false
  | .infinite negative, _ => negative
  | .finite negative significand exponent, number =>
    scaledLess (scaled negative significand) exponent number 0

/-- Whether an integer is less than a number. -/
def intLess (number : Int) : Double → Bool
  | .notANumber => false
  | .infinite negative => !negative
  | .finite negative significand exponent =>
    scaledLess number 0 (scaled negative significand) exponent

/-- Whether a number is not a number. -/
def isNotANumber : Double → Bool
  | .notANumber => true
  | _ => false

/-- Whether a number is zero, of either sign. -/
def isZero : Double → Bool
  | .finite _ significand _ => significand == 0
  | _ => false

/-- The integer that a finite number is, if it has no fraction. -/
def toInt? : Double → Option Int
  | .finite negative significand exponent =>
    let unit := power 2 (-exponent)
    if significand % unit = 0 then
      some (scaled negative (significand / unit * power 2 exponent))
    else none
  | _ => none

/-- The greatest integer that is not above a finite number. -/
def floor? : Double → Option Int
  | .finite negative significand exponent =>
    some (scaled negative significand * power 2 exponent / power 2 (-exponent))
  | _ => none

end Double

end Recurrence
