/-
**Integers in requests.**

A request may give an integer as a number without a fraction, as a truth value, or as text. Text is
read as it stands if it is a plain integer, one that JSON admits. Otherwise it may have white space
around it, a plus sign, zeros in front, a fraction of zeros behind, and single underscores between
digits (`cleaned?`).
-/
import Recurrence.Service.Checked

namespace Recurrence.Service.IntegerText

/-- Whether a character is an ASCII digit other than zero. -/
def isNonzeroDigit (char : Char) : Bool := '1' ≤ char && char ≤ '9'

/-! ### Plain integers -/

/-- The value of plain decimal digits that do not begin with a spare zero. -/
def plain? : List Char → Option Nat
  | ['0'] => some 0
  | '0' :: _ => none
  | digits => Text.digits? digits

/-- Takes off a minus sign in front and tells whether there is one. -/
def takeMinus : List Char → Bool × List Char
  | '-' :: rest => (true, rest)
  | chars => (false, chars)

/-- The value of a plain integer with at most 4300 digits. -/
def signed? (chars : List Char) : Option Int :=
  let (negative, digits) := takeMinus chars
  if maxDigits < digits.length then none
  else (plain? digits).map fun value => if negative then -(value : Int) else value

/-- Whether text begins with a plain integer that has more than 4300 digits. -/
def isTooLong (chars : List Char) : Bool :=
  let digits := ((takeMinus chars).2).takeWhile Char.isDigit
  maxDigits < digits.length && digits.head?.any isNonzeroDigit

/-! ### Cleaning -/

/-- Digits after zeros and underscores, of which the last one was just passed. -/
def afterZeros? (passed : Char) : List Char → Option (List Char)
  | [] => some [passed]
  | '.' :: rest => some (passed :: '.' :: rest)
  | char :: rest =>
    if char = '0' ∨ char = '_' then afterZeros? char rest
    else if isNonzeroDigit char ∨ char = '-' then some (char :: rest)
    else none

/-- Digits without the zeros in front. -/
def withoutZeros? : List Char → Option (List Char)
  | [] => none
  | '0' :: rest => afterZeros? '0' rest
  | char :: rest => if isNonzeroDigit char ∨ char = '-' then some (char :: rest) else none

/-- Text without a fraction of zeros. -/
def withoutFraction (chars : List Char) : List Char :=
  match chars.span (· ≠ '.') with
  | (whole, '.' :: '0' :: fraction) => if fraction.all (· == '0') then whole else chars
  | _ => chars

/-- Whether underscores stand between other characters only, one at a time. -/
def underscoresInside : (previous : Char) → List Char → Bool
  | previous, [] => previous ≠ '_'
  | previous, char :: rest => !(previous == '_' && char == '_') && underscoresInside char rest

/-- Text without underscores, if they stand inside only. -/
def withoutUnderscores (chars : List Char) : List Char :=
  if underscoresInside '_' chars then chars.filter (· ≠ '_') else chars

/-- Text brought into plain form. -/
def cleaned? (chars : List Char) : Option (List Char) := do
  let digits ← match Text.trim Text.isWhiteSpace chars with
    | '+' :: '-' :: _ => none
    | '+' :: rest => withoutZeros? rest
    | '-' :: rest => (withoutZeros? rest).map ('-' :: ·)
    | chars => withoutZeros? chars
  return withoutUnderscores (withoutFraction digits)

/-! ### Reading -/

/-- Reads an integer from text. -/
def read (text : Text) : Except Refusal Int :=
  match text.chars? with
  | none => .error .stringUnicode
  | some chars =>
    match signed? chars with
    | some value => .ok value
    | none =>
      if isTooLong chars then .error .intParsingSize
      else match (cleaned? chars).bind signed? with
        | some value => .ok value
        | none => .error .intParsing

/-- Reads an integer from a double, which has to be finite and without a fraction and, with either
sign, to fit into 64 bits. -/
def ofDouble (number : Double) : Except Refusal Int :=
  match number with
  | .finite .. =>
    match number.toInt? with
    | none => .error .intFromFloat
    | some value =>
      if Fits64 value ∧ Fits64 (-value) then .ok value else .error .intParsingSize
  | _ => .error .finiteNumber

/-- Reads an integer from a value. -/
def ofValue : Value → Except Refusal Int
  | .int value => .ok value
  | .bool value => .ok (if value then 1 else 0)
  | .double value => ofDouble value
  | .text value => read value
  | _ => .error .intType

end Recurrence.Service.IntegerText
