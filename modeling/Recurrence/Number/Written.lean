/-
**Written decimal numbers.**

A decimal number is written with digits, a point among, before or after them, a sign in front and a
power of ten behind; all but some digits may be left out. It is read as the nearest double
(`Double.ofWritten?`).

A finite double is written with the fewest decimal digits that are read as the same double, of two
such decimals with the nearer one. `Double.display` places the point: positionally for magnitudes
from 10⁻⁴ up to 10¹⁶, with at least one decimal, and otherwise with an exponent of at least two
digits.
-/
import Recurrence.Number.Double
import Recurrence.Text.Digit

namespace Recurrence.Double

/-! ### Reading -/

/-- Takes off a sign in front and tells whether it is a minus sign. -/
def takeSign : List Char → Bool × List Char
  | '-' :: rest => (true, rest)
  | '+' :: rest => (false, rest)
  | chars => (false, chars)

/-- The power of ten written behind the digits of a number; none is written for the power zero. -/
def exponent? : List Char → Option Int
  | [] => some 0
  | mark :: rest =>
    if mark = 'e' ∨ mark = 'E' then
      let (negative, digits) := takeSign rest
      (Text.digits? digits).map fun power => if negative then -(power : Int) else power
    else none

/-- Reads a written decimal number. -/
def ofWritten? (chars : List Char) : Option Double := do
  let (negative, unsigned) := takeSign chars
  let (whole, rest) := unsigned.span Char.isDigit
  let (decimals, rest) := match rest with
    | '.' :: rest => rest.span Char.isDigit
    | rest => ([], rest)
  let digits ← Text.digits? (whole ++ decimals)
  return ofDecimal negative digits ((← exponent? rest) - decimals.length)

/-! ### Writing -/

/-- The decimal exponent of a positive ratio: that of its first digit. -/
def leadingExponent (numerator denominator : Nat) : Int :=
  let guess : Int :=
    ((Nat.toDigits 10 numerator).length : Int) - (Nat.toDigits 10 denominator).length
  if denominator * power 10 guess ≤ numerator * power 10 (-guess) then guess else guess - 1

/-- The nearer of the two neighbours of a ratio on the grid of a power of ten that reads back, as a
multiple of that power. -/
def nearestOnGrid? (number : Double) (numerator denominator : Nat) (exponent : Int) : Option Nat :=
  let numerator := numerator * power 10 (-exponent)
  let denominator := denominator * power 10 exponent
  let below := numerator / denominator
  let nearer := halfEven numerator denominator
  let other := if nearer = below then below + 1 else below
  [nearer, other].find? fun digits => ofDecimal false digits exponent == number

/-- The shortest digits of a positive significand times a power of two, with their power of ten. -/
def shortest (significand : Nat) (exponent : Int) : Nat × Int :=
  let numerator := significand * power 2 exponent
  let denominator := power 2 (-exponent)
  let leading := leadingExponent numerator denominator
  let found := (List.range 17).findSome? fun (further : Nat) =>
    let grid := leading - further
    (nearestOnGrid? (.finite false significand exponent) numerator denominator grid).map (·, grid)
  found.getD (significand, exponent)

/-- Digits without the zeros at their end. -/
def withoutFinalZeros (digits : List Char) : List Char :=
  (digits.reverse.dropWhile (· == '0')).reverse

/-- Digits with a point after the first ones, zeros filling the places up to it. -/
def positional (digits : List Char) (point : Int) : List Char :=
  if point ≤ 0 then '0' :: '.' :: (List.replicate (-point).toNat '0' ++ digits)
  else
    let whole := digits.take point.toNat
    let fraction := digits.drop point.toNat
    whole ++ List.replicate (point.toNat - digits.length) '0' ++ '.' ::
      (if fraction.isEmpty then ['0'] else fraction)

/-- Digits with a point after the first one and a power of ten. -/
def exponential (digits : List Char) (power : Int) : List Char :=
  let sign := if power < 0 then '-' else '+'
  let written := Nat.toDigits 10 power.natAbs
  let mark := 'e' :: sign :: (List.replicate (2 - written.length) '0' ++ written)
  match digits with
  | [first] => first :: mark
  | first :: rest => first :: '.' :: rest ++ mark
  | [] => mark

/-- The written form of a number. -/
def display : Double → String
  | .notANumber => "nan"
  | .infinite negative => if negative then "-inf" else "inf"
  | .finite negative significand exponent =>
    let sign := if negative then ['-'] else []
    if significand = 0 then String.ofList (sign ++ ['0', '.', '0'])
    else
      let (number, power) := shortest significand exponent
      let digits := Nat.toDigits 10 number
      let leading := power + digits.length - 1
      let digits := withoutFinalZeros digits
      String.ofList (sign ++
        if -4 ≤ leading ∧ leading < 16 then positional digits (leading + 1)
        else exponential digits leading)

end Recurrence.Double
