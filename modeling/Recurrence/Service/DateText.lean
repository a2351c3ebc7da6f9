/-
**Dates in requests.**

A request gives a date as text `YYYY-MM-DD`. It may also give a date with a time and an optional
offset from universal time, or the seconds since the beginning of 1970 (milliseconds beyond
20000000000), as long as the time is midnight. Counts may have fractions; they are rounded to
microseconds.
-/
import Recurrence.Service.Checked

namespace Recurrence.Service.DateText

/-- A day and the time of day in microseconds, as they are read from a request. Year 0 has not been
sorted out yet. -/
structure Moment where
  dayNumber : Int
  microseconds : Int
deriving DecidableEq

/-- The date of a moment, which has to be midnight and must not lie in year 0. -/
def Moment.date (moment : Moment) : Except Refusal Date :=
  if moment.microseconds = 0 then
    (Date.ofDayNumber moment.dayNumber).mapError fun _ => .dateParsing
  else .error .dateFromDatetimeInexact

/-- The number of a day written `YYYY-MM-DD`, the day being one of the month. -/
def civil? (chars : List Char) : Option Int := do
  let (year, month, day) ← Date.isoParts? chars
  if 1 ≤ month ∧ month ≤ 12 ∧ 1 ≤ day ∧ day ≤ monthLength year month then
    return dayNumberOf year month day
  else none

/-! ### Times -/

/-- Whether text is an offset from universal time, or nothing. -/
def isOffset : List Char → Bool
  | [] => true
  | [mark] => mark == 'Z' || mark == 'z'
  | sign :: digits =>
    let within (h₁ h₂ m₁ m₂ : Char) : Bool :=
      (Text.digits? [h₁, h₂]).any (· < 24) && (Text.digits? [m₁, m₂]).any (· < 60)
    (sign == '+' || sign == '-' || sign == '\u2212') && match digits with
      | [h₁, h₂, ':', m₁, m₂] => within h₁ h₂ m₁ m₂
      | [h₁, h₂, m₁, m₂] => within h₁ h₂ m₁ m₂
      | _ => false

/-- The microseconds of a fraction of a second, of which six digits count, and the rest of the
text. -/
def fraction? (chars : List Char) : Option (Nat × List Char) :=
  match chars with
  | mark :: rest =>
    if mark = '.' ∨ mark = ',' then
      match rest.span Char.isDigit with
      | ([], _) => none
      | (digits, rest) =>
        (Text.digits? ((digits ++ List.replicate 6 '0').take 6)).map (·, rest)
    else some (0, chars)
  | [] => some (0, [])

/-- The microseconds of a time of day. -/
def timeOfDay? : List Char → Option Nat
  | h₁ :: h₂ :: ':' :: m₁ :: m₂ :: rest => do
    let hour ← Text.digits? [h₁, h₂]
    let minute ← Text.digits? [m₁, m₂]
    let (second, fraction, rest) ← match rest with
      | ':' :: s₁ :: s₂ :: rest => do
        let second ← Text.digits? [s₁, s₂]
        let (fraction, rest) ← fraction? rest
        some (second, fraction, rest)
      | ':' :: _ => none
      | rest => some (0, 0, rest)
    if hour < 24 ∧ minute < 60 ∧ second < 60 ∧ isOffset rest then
      some (((hour * 60 + minute) * 60 + second) * 1000000 + fraction)
    else none
  | _ => none

/-- A date with a time of day. -/
def moment? (chars : List Char) : Option Moment := do
  let dayNumber ← civil? (chars.take 10)
  match chars.drop 10 with
  | mark :: time =>
    if mark = 'T' ∨ mark = 't' ∨ mark = ' ' ∨ mark = '_' then
      return { dayNumber, microseconds := ← timeOfDay? time }
    else none
  | [] => none

/-! ### Seconds since 1970 -/

/-- The number of the day 1970-01-01. -/
def epochDay : Int := 719163

/-- The greatest count that is taken for seconds; what lies beyond is taken for milliseconds. -/
def greatestSeconds : Int := 20000000000

/-- The microseconds of one unit of a count. -/
def unitOf (count : Int) : Int := if count.natAbs ≤ greatestSeconds then 1000000 else 1000

/-- The moment some microseconds after the beginning of 1970, from year 0 to year 9999. -/
def momentAfter? (microseconds : Int) : Option Moment :=
  let day := 86400000000
  if -62167219200000000 ≤ microseconds ∧ microseconds < 253402300800000000 then
    some { dayNumber := epochDay + microseconds / day, microseconds := microseconds % day }
  else none

/-- The greatest whole number that is not above a number, and the millionths above it. -/
def millionths? (number : Double) : Option (Int × Int) := do
  let whole ← number.floor?
  let above ← ((number.subtract number.floor).multiply (.ofInt 1000000)).nearest?
  return (whole, above)

/-- The moment that a count with a fraction denotes. Milliseconds are brought to seconds before
their fraction is looked at. -/
def momentAfterDouble? (count : Double) : Option Moment := do
  let beyond := (Double.ofInt greatestSeconds).less count ||
    count.less (.ofInt (-greatestSeconds))
  let (seconds, above) ← millionths? (if beyond then count.divideBy 1000 else count)
  momentAfter? (seconds * 1000000 + above)

/-- The moment that a written count denotes. Its whole part has to fit into 64 bits, and a power of
ten may stand behind a point only. -/
def writtenMoment? (chars : List Char) : Option Moment := do
  let (negative, unsigned) := Double.takeSign chars
  let (digits, rest) := unsigned.span Char.isDigit
  let magnitude : Int := (Text.digits? digits).getD 0
  if ¬ Fits64 magnitude then none
  match digits, rest with
  | _, '.' :: _ => momentAfterDouble? (← Double.ofWritten? chars)
  | _ :: _, [] =>
    let count := if negative then -magnitude else magnitude
    momentAfter? (count * unitOf count)
  | _, _ => none

/-! ### Dates -/

/-- The date of a moment, if there is one. -/
def ofMoment (moment? : Option Moment) : Except Refusal Date :=
  match moment? with
  | some moment => moment.date
  | none => .error .dateFromDatetimeParsing

/-- Reads a date from text. -/
def read (text : Text) : Except Refusal Date :=
  match text.chars? with
  | none => .error .stringUnicode
  | some chars =>
    match civil? chars with
    | some dayNumber => Moment.date { dayNumber, microseconds := 0 }
    | none => ofMoment (moment? chars <|> writtenMoment? chars)

/-- Reads a date from an integer. One that does not fit into 64 bits is rounded to a double. -/
def ofInt (count : Int) : Except Refusal Date :=
  if Fits64 count then ofMoment (momentAfter? (count * unitOf count))
  else match Double.ofInt count with
    | .infinite _ => .error .dateType
    | rounded => ofMoment (momentAfterDouble? rounded)

/-- Reads a date from a value. -/
def ofValue : Value → Except Refusal Date
  | .text value => read value
  | .int count => ofInt count
  | .double count => ofMoment (momentAfterDouble? count)
  | _ => .error .dateType

end Recurrence.Service.DateText
