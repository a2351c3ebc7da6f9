/-
**Numbers on forms.**

A number on a form is an integer, a truth value, which counts as one or zero, or a double. Doubles
and integers are compared exactly. Arithmetic stays with integers as long as it can, and rounds the
integers to doubles where it meets one; an integer beyond the doubles cannot be rounded.

Integers may be of any size. Where one is put into a machine word it has to fit, the sign included:
into 64 bits (`Fits64`) or into 32 (`Fits32`). An integer that is read or written in decimal has at
most 4300 digits (`IsWritable`).

* `isWritable_of_fits64`: what fits into a machine word can be written;
* `Number.less_int`: integers have their usual order.
-/
import Recurrence.Number.Arithmetic
import Recurrence.Number.Written

namespace Recurrence

/-! ### Integers of a limited width -/

/-- The number fits into a signed word of 64 bits. -/
def Fits64 (number : Int) : Prop := -9223372036854775808 ≤ number ∧ number ≤ 9223372036854775807

/-- The number fits into a signed word of 32 bits. -/
def Fits32 (number : Int) : Prop := -2147483648 ≤ number ∧ number ≤ 2147483647

instance (number : Int) : Decidable (Fits64 number) := inferInstanceAs (Decidable (_ ∧ _))

instance (number : Int) : Decidable (Fits32 number) := inferInstanceAs (Decidable (_ ∧ _))

/-- The largest number of digits of an integer that is read or written. -/
def maxDigits : Nat := 4300

/-- The number has no more digits than can be written. -/
def IsWritable (number : Int) : Prop := number.natAbs < Nat.pow 10 maxDigits

instance decidableIsWritable (number : Int) : Decidable (IsWritable number) :=
  inferInstanceAs (Decidable (_ < _))

-- The bound is far too large to be worked out wherever a number is compared with it.
attribute [irreducible] decidableIsWritable

theorem word_le_pow_maxDigits : 100000000000000000000 ≤ Nat.pow 10 maxDigits := by
  have digits : 20 ≤ maxDigits := by decide
  have ten : 0 < 10 := by decide
  generalize maxDigits = limit at digits ⊢
  exact Nat.pow_le_pow_right ten digits

/-- What fits into a machine word can be written. -/
theorem isWritable_of_fits64 {number : Int} (fits : Fits64 number) : IsWritable number := by
  have large := word_le_pow_maxDigits
  unfold Fits64 at fits
  unfold IsWritable
  omega

/-- What is said of an integer that has too many digits to be written. -/
def unwritableMessage : String :=
  "Exceeds the limit (4300 digits) for integer string conversion; " ++
    "use sys.set_int_max_str_digits() to increase the limit"

/-! ### Numbers -/

/-- A number on a form. -/
inductive Number where
  | int (value : Int)
  | truth (value : Bool)
  | double (value : Double)
deriving DecidableEq

namespace Number

instance : Coe Int Number := ⟨int⟩

/-- The written form of a number. -/
def display : Number → String
  | int value => toString value
  | truth value => if value then "True" else "False"
  | double value => value.display

/-- An integer, or a truth value as one or zero. -/
def whole? : Number → Option Int
  | int value => some value
  | truth value => some (if value then 1 else 0)
  | double _ => none

/-! ### Order -/

/-- Whether a number is less than another. -/
def less (first second : Number) : Bool :=
  match first, second with
  | double first, double second => first.less second
  | double first, second => first.lessThanInt (second.whole?.getD 0)
  | first, double second => Double.intLess (first.whole?.getD 0) second
  | first, second => first.whole?.getD 0 < second.whole?.getD 0

/-- Integers have their usual order. -/
theorem less_int (first second : Int) : less (int first) (int second) = decide (first < second) :=
  rfl

/-- Whether a number is not a number. -/
def isNotANumber : Number → Bool
  | double value => value.isNotANumber
  | _ => false

/-- Whether two numbers have one value. What is not a number has none. -/
def equal (first second : Number) : Bool :=
  !first.isNotANumber && !second.isNotANumber && !first.less second && !second.less first

/-! ### Arithmetic -/

/-- A number as a double, unless it lies beyond them. -/
def toDouble? : Number → Option Double
  | double value => some value
  | number =>
    match Double.ofInt (number.whole?.getD 0) with
    | .infinite _ => none
    | rounded => some rounded

/-- An operation on integers and on doubles, applied to two numbers. -/
def combine? (onInts : Int → Int → Int) (onDoubles : Double → Double → Double)
    (first second : Number) : Option Number :=
  match first.whole?, second.whole? with
  | some first, some second => some (int (onInts first second))
  | _, _ => do return double (onDoubles (← first.toDouble?) (← second.toDouble?))

/-- The sum of two numbers. -/
def add? : Number → Number → Option Number := combine? (· + ·) Double.add

/-- The difference of two numbers. -/
def subtract? : Number → Number → Option Number := combine? (· - ·) Double.subtract

/-- The product of two numbers. -/
def multiply? : Number → Number → Option Number := combine? (· * ·) Double.multiply

/-- How often a positive integer goes into a number. -/
def quotient (number : Number) (divisor : Nat) : Number :=
  match number with
  | double value => double (value.floorQuotient divisor)
  | number => int (number.whole?.getD 0 / divisor)

/-- What a division by a positive integer leaves of a number. -/
def remainder (number : Number) (divisor : Nat) : Number :=
  match number with
  | double value => double (value.remainder divisor)
  | number => int (number.whole?.getD 0 % divisor)

end Number

end Recurrence
