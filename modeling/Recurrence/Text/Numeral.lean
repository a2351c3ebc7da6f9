/-
**Written integers.**

An integer is written with decimal digits of any script, single underscores between digits, a sign
in front of them and white space around it. At most 4300 digits are read (`maxDigits`); a run of
digits that is longer is reported as such, whatever comes after it. Nor are more digits written than
are read (`Text.decimal`).
-/
import Recurrence.Number.Basic
import Recurrence.Text.Digit
import Recurrence.Text.Quoted

namespace Recurrence

/-- Why a text cannot be read as an integer, or an integer not be written. -/
inductive NumeralError where
  /-- The text is no integer. -/
  | malformed (text : Text)
  /-- The integer has too many digits. -/
  | tooLong (digits : Nat)
  /-- The integer has too many digits to be written. -/
  | unwritable
deriving DecidableEq

/-- The wording of each cause. A text is shown up to 200 code points of its quoted form. -/
def NumeralError.message : NumeralError → Text
  | malformed text =>
    "invalid literal for int() with base 10: " ++ ⟨(Text.quoted text).codePoints.take 200⟩
  | tooLong digits =>
    s!"Exceeds the limit (4300 digits) for integer string conversion: value has {digits} " ++
      "digits; use sys.set_int_max_str_digits() to increase the limit"
  | unwritable => unwritableMessage

namespace Text

/-- The value of a code point that is a decimal digit. -/
def digitAt? (codePoint : CodePoint) : Option Nat := codePoint.char?.bind decimalDigit?

/-- Whether a code point is a digit or an underscore. -/
def isInRun (codePoint : CodePoint) : Bool :=
  (digitAt? codePoint).isSome || codePoint == .char '_'

/-- Whether a run of digits and underscores ends in a digit and has a digit before every
underscore. -/
def isWellFormed : (afterDigit : Bool) → List CodePoint → Bool
  | afterDigit, [] => afterDigit
  | afterDigit, .char '_' :: rest => afterDigit && isWellFormed false rest
  | _, _ :: rest => isWellFormed true rest

/-- The number written by some digits. -/
def natural (digits : List Nat) : Nat := digits.foldl (fun number digit => 10 * number + digit) 0

/-- Takes off a sign in front and tells whether it is a minus sign. -/
def takeSign : List CodePoint → Bool × List CodePoint
  | .char '-' :: rest => (true, rest)
  | .char '+' :: rest => (false, rest)
  | codePoints => (false, codePoints)

/-- Reads an integer, or reports why there is none. -/
def integer (text : Text) : Except NumeralError Int := do
  let isWhite := CodePoint.isIn isWhiteSpace
  let (negative, unsigned) := takeSign (text.codePoints.dropWhile isWhite)
  let run := unsigned.takeWhile isInRun
  let digits := run.filterMap digitAt?
  if !isWellFormed false run then throw (.malformed text)
  if maxDigits < digits.length then throw (.tooLong digits.length)
  if !(unsigned.drop run.length).all isWhite then throw (.malformed text)
  let magnitude : Int := natural digits
  return if negative then -magnitude else magnitude

/-- Writes an integer in ASCII digits, or reports that it has too many of them. -/
def decimal (number : Int) : Except NumeralError Text :=
  if IsWritable number then .ok (toString number) else .error .unwritable

end Text

end Recurrence
