/-
**Months on forms.**

On a form the year and the month may be anything. Ranges are asked of them as they stand, so that a
truth value counts as one or zero and a fraction may lie within a range; only where a date is made
do they have to be whole numbers. Years and months can be counted on with fractions, too.

* `MonthForm.onWeekday`: the date with a place and a weekday, all of them on a form;
* `MonthForm.shift`: the year and month some months later.
-/
import Recurrence.MonthView
import Recurrence.Rule.Validation
import Recurrence.Value.Order

namespace Recurrence

/-- A year and a month as they stand on a form. -/
structure MonthForm where
  year : Value
  month : Value
deriving DecidableEq

/-- A month as it is written on a form. -/
def YearMonth.toForm (month : YearMonth) : MonthForm := ⟨.int month.year, .int month.month⟩

namespace MonthForm

/-! ### Ranges -/

/-- Lets numbers from 1 up to a greatest one pass; others are refused. -/
def requireRange (greatest : Int) (refused : Number → CalendarError) (value : Value) :
    Except Error Unit :=
  match value.number? with
  | none => .error (.mismatch (.notOrdered .atMost (Value.int 1).typeName value.typeName))
  | some number =>
    if number.less (.int 1) ∨ (Number.int greatest).less number ∨ number.isNotANumber then
      .error (.calendar (refused number))
    else .ok ()

/-- Lets the years 1 to 9999 pass. -/
def requireYear (month : MonthForm) : Except Error Unit :=
  requireRange 9999 (.showing .yearOutsideCalendar) month.year

/-- Lets the twelve months of a year pass. -/
def requireMonth (month : MonthForm) : Except Error Unit :=
  requireRange 12 (.showing .monthOutOfRange) month.month

/-! ### Days of a month -/

/-- A whole number that fits into a word. -/
def word (value : Value) : Except Error Int := do
  let whole ← value.asWhole.mapError .mismatch
  (Date.fitWord whole).mapError .calendar
  return whole

/-- The date on a day of the month, the day being on the form, too. -/
def onDay (month : MonthForm) (day : Value) : Except Error Date := do
  let year ← word month.year
  let number ← word month.month
  let day ← word day
  (Date.ofCivil year number day).mapError .calendar

/-- The month as a whole number of a whole year; years are ordered before they are looked at. -/
def whole (month : MonthForm) : Except Error YearMonth := do
  discard ((Value.compare .atMost (.int 1) month.year).mapError .mismatch)
  let year ← month.year.asWhole.mapError .mismatch
  let number ← month.month.asWhole.mapError .mismatch
  return ⟨year, number⟩

/-- The number of days of the month. -/
def length (month : MonthForm) : Except Error Int := do
  requireRange 12 .noMonthLength month.month
  (← month.whole).length.mapError .calendar

/-- The date on a day of the month, or on the month's last day if the day lies past its end. -/
def onDayOrLast (month : MonthForm) (day : Value) : Except Error Date := do
  month.requireYear
  let length := Value.int (← month.length)
  let past ← (length.compare .less day).mapError .mismatch
  month.onDay (if past then length else day)

/-- The date of the month with a place and a weekday. -/
def onWeekday (month : MonthForm) (ordinal weekday : Value) : Except Error Date := do
  let ordinal ← ordinal.asOrdinal.mapError .rule
  let weekday ← (weekday.asWeekday (.ofField .monthWeekDay)).mapError .rule
  month.requireMonth
  let first : Date ←
    if ordinal = .last then month.onDay (.int (← month.length)) else month.onDay (.int 1)
  (first.yearMonth.onWeekday ordinal weekday).mapError .calendar

/-! ### The grid -/

/-- The last date of the month's grid. -/
def gridEnd (month : MonthForm) : Except Error Date := do
  month.requireMonth
  (← month.whole).gridEnd.mapError .calendar

/-- The view of the month with the given dates selected; what is no date selects nothing. -/
def view (occurrences : List Value) (month : MonthForm) : Except Error MonthView := do
  month.requireMonth
  (occurrences.forM Value.requireCollected).mapError .mismatch
  let dates := occurrences.filterMap fun occurrence => match occurrence with
    | .date date => some date
    | _ => none
  (MonthView.showing dates (← month.whole)).mapError .calendar

/-! ### Counting months -/

/-- A result of arithmetic with doubles, which may lie beyond them. -/
def counted (result : Option Number) : Except Error Number :=
  match result with
  | some number => .ok number
  | none => .error (.calendar .beyondDoubles)

/-- The months up to a year. A text or a list twelve times over is no number, but fails only when
something is added to it. -/
def monthsUpTo (year : Value) : Except Error (Option Number) := do
  match year with
  | .text _ | .list _ => return none
  | _ =>
    let (year, twelve) ← (year.operands "*" (.int 12)).mapError .mismatch
    return some (← counted (year.multiply? twelve))

/-- The year and month some months later, or earlier. -/
def shift (month : MonthForm) (months : Value) : Except Error (Number × Number) := do
  let before ← monthsUpTo month.year
  let (number, one) ← (month.month.operands "-" (.int 1)).mapError .mismatch
  let within ← counted (number.subtract? one)
  match before with
  | none =>
    throw (.mismatch (.notContinued month.year.typeName (Value.ofNumber within).typeName))
  | some before =>
    let index ← counted (before.add? within)
    let (index, months) ← ((Value.ofNumber index).operands "+" months).mapError .mismatch
    let index ← counted (index.add? months)
    return (index.quotient 12, ← counted ((index.remainder 12).add? (.int 1)))

end MonthForm

end Recurrence
