/-
**Arithmetic with doubles.**

Every operation computes its exact result and rounds it once. The remainder of a division has the
sign of the divisor, here always positive, and the quotient is brought back to a whole number after
it has been rounded.
-/
import Recurrence.Number.Double

namespace Recurrence.Double

/-! ### Sum and product -/

/-- The number with the other sign. -/
def negate : Double → Double
  | finite negative significand exponent => finite (!negative) significand exponent
  | infinite negative => infinite (!negative)
  | notANumber => notANumber

/-- The sum of two numbers. A sum of zero is negative only if both numbers are. -/
def add : Double → Double → Double
  | notANumber, _ | _, notANumber => notANumber
  | infinite negative, infinite other => if negative = other then infinite negative else notANumber
  | infinite negative, finite .. | finite .., infinite negative => infinite negative
  | finite negative significand exponent, finite negative' significand' exponent' =>
    let unit := min exponent exponent'
    let sum := scaled negative significand * power 2 (exponent - unit) +
      scaled negative' significand' * power 2 (exponent' - unit)
    if sum = 0 then zero (negative && negative')
    else ofRatio (sum < 0) (sum.natAbs * power 2 unit) (power 2 (-unit))

/-- The difference of two numbers. -/
def subtract (first second : Double) : Double := add first second.negate

/-- The product of two numbers. -/
def multiply : Double → Double → Double
  | notANumber, _ | _, notANumber => notANumber
  | infinite negative, infinite other => infinite (negative != other)
  | infinite negative, finite other significand _ | finite other significand _, infinite negative =>
    if significand = 0 then notANumber else infinite (negative != other)
  | finite negative significand exponent, finite negative' significand' exponent' =>
    let unit := exponent + exponent'
    ofRatio (negative != negative') (significand * significand' * power 2 unit) (power 2 (-unit))

/-! ### Division by a positive integer -/

/-- The quotient of a number and a positive integer. -/
def divideBy (number : Double) (divisor : Nat) : Double :=
  match number with
  | finite negative significand exponent =>
    ofRatio negative (significand * power 2 exponent) (divisor * power 2 (-exponent))
  | other => other

/-- The greatest whole number that is not above a number. A zero keeps its sign. -/
def floor (number : Double) : Double :=
  match number, number.floor? with
  | finite negative 0 _, _ => zero negative
  | _, some whole => ofInt whole
  | other, none => other

/-- What a division by a positive integer towards zero leaves, with the sign of the number. -/
def truncatedRemainder (number : Double) (divisor : Nat) : Double :=
  match number with
  | finite negative significand exponent =>
    ofRatio negative (significand * power 2 exponent % (divisor * power 2 (-exponent)))
      (power 2 (-exponent))
  | _ => notANumber

/-- The remainder of a number divided by a positive integer, which is not negative. -/
def remainder (number : Double) (divisor : Nat) : Double :=
  let left := number.truncatedRemainder divisor
  if left.isZero then zero false
  else if left.lessThanInt 0 then left.add (ofInt divisor)
  else left

/-- The whole number of times that a positive integer goes into a number. -/
def floorQuotient (number : Double) (divisor : Nat) : Double :=
  let left := number.truncatedRemainder divisor
  let quotient := (number.subtract left).divideBy divisor
  let quotient := if left.lessThanInt 0 then quotient.subtract (ofInt 1) else quotient
  if quotient.isZero then
    match number with
    | finite negative _ _ | infinite negative => zero negative
    | notANumber => notANumber
  else
    let whole := quotient.floor
    if (ofRatio false 1 2).less (quotient.subtract whole) then whole.add (ofInt 1) else whole

/-! ### Nearest whole number -/

/-- The whole number nearest to a finite number, a half going upwards. -/
def nearest? : Double → Option Int
  | finite negative significand exponent =>
    let unit : Int := power 2 (-exponent)
    some ((2 * scaled negative (significand * power 2 exponent) + unit) / (2 * unit))
  | _ => none

end Recurrence.Double
