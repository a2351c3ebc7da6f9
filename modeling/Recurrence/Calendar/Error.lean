/-
**Why a computation with dates fails.**

The calendar reaches from the first day of year 1 to the last day of year 9999. A number that a date
is built from has to fit into a machine word of 32 bits before its range is looked at. A year or a
month that is refused is shown, unless it has too many digits to be written
(`CalendarError.showing`).
-/
import Recurrence.Number.Basic

namespace Recurrence

/-- The causes of failure of computations with dates. -/
inductive CalendarError where
  /-- A number of days leads out of the calendar. -/
  | dateOutOfRange
  /-- A computed year lies outside the calendar. -/
  | yearOutsideCalendar (year : Number)
  /-- A year or a month is refused and has too many digits to be reported. -/
  | unwritable
  /-- A date was asked for in a year outside the calendar. -/
  | noSuchYear (year : Int)
  /-- A date was asked for in a month outside the year. -/
  | noSuchMonth
  /-- A date was asked for on a day outside the month. -/
  | noSuchDay
  /-- The length of a month outside the year was asked for. -/
  | noMonthLength (month : Number)
  /-- A month has to be named by a number from 1 to 12. -/
  | monthOutOfRange (month : Number)
  /-- A number does not fit into 64 bits. -/
  | numberTooWide
  /-- A number fits into 64 bits but is above the greatest of 32 bits. -/
  | numberTooLarge
  /-- A number fits into 64 bits but is below the least of 32 bits. -/
  | numberTooSmall
  /-- An integer lies beyond the doubles that it is to be computed with. -/
  | beyondDoubles
deriving DecidableEq

namespace CalendarError

/-- The wording of each cause. -/
def message : CalendarError → String
  | dateOutOfRange => "date value out of range"
  | yearOutsideCalendar year => "year " ++ year.display ++ " is out of range"
  | unwritable => unwritableMessage
  | noSuchYear year => s!"year {year} is out of range"
  | noSuchMonth => "month must be in 1..12"
  | noSuchDay => "day is out of range for month"
  | noMonthLength month => "bad month number " ++ month.display ++ "; must be 1-12"
  | monthOutOfRange month => "Month must be between 1 and 12, got " ++ month.display
  | numberTooWide => "Python int too large to convert to C long"
  | numberTooLarge => "signed integer is greater than maximum"
  | numberTooSmall => "signed integer is less than minimum"
  | beyondDoubles => "int too large to convert to float"

/-- The cause that shows a refused number, unless the number cannot be written. -/
def showing (cause : Number → CalendarError) (refused : Number) : CalendarError :=
  match refused with
  | .int number => if IsWritable number then cause (.int number) else unwritable
  | other => cause other

/-- Whether a computation left the range of its results, as opposed to being given a wrong argument.
A sequence of dates that fails in this way has reached the end of the calendar. -/
def isOverflow : CalendarError → Bool
  | dateOutOfRange | yearOutsideCalendar _ | numberTooWide | numberTooLarge | numberTooSmall
  | beyondDoubles => true
  | unwritable | noSuchYear _ | noSuchMonth | noSuchDay | noMonthLength _
  | monthOutOfRange _ => false

end CalendarError

end Recurrence
