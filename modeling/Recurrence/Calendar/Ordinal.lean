/-
**Weekdays counted within a month.**

A date is the first, second, third, fourth or last of its weekday in its month (`Date.ordinal`).
Conversely `YearMonth.onWeekday` finds the date with a place and a weekday, by walking day by day
from the month's first or last day: six steps always suffice, since seven days in a row fall on
seven weekdays.

* `Ordinal.ofName?_name`: an ordinal is known by its name.
-/
import Recurrence.Calendar.YearMonth

namespace Recurrence

/-! ### Ordinals -/

/-- The place of a weekday among those of its month. -/
inductive Ordinal where
  | first
  | second
  | third
  | fourth
  | last
deriving DecidableEq

namespace Ordinal

/-- The written form of an ordinal. -/
def name : Ordinal → String
  | first => "first"
  | second => "second"
  | third => "third"
  | fourth => "fourth"
  | last => "last"

/-- All ordinals in their order. -/
def all : List Ordinal := [first, second, third, fourth, last]

/-- Reads the written form of an ordinal. -/
def ofName? (text : String) : Option Ordinal := all.find? (·.name == text)

/-- An ordinal is known by its name. -/
theorem ofName?_name (ordinal : Ordinal) : ofName? ordinal.name = some ordinal := by
  cases ordinal <;> decide

end Ordinal

/-- The place of a date's weekday in its month, a fifth one being the last. -/
def Date.ordinal (date : Date) : Ordinal :=
  if date.day ≤ 7 then .first
  else if date.day ≤ 14 then .second
  else if date.day ≤ 21 then .third
  else if date.day ≤ 28 then .fourth
  else .last

/-! ### Weekdays of a month -/

/-- Walks from a date, `stride` days at a time and at most `steps` times, until it reaches a date on
the weekday. -/
def Date.walkTo (weekday : Weekday) (stride : Int) : (steps : Nat) → Date →
    Except CalendarError Date
  | 0, date => .ok date
  | steps + 1, date =>
    if date.weekday = weekday then .ok date
    else do walkTo weekday stride steps (← date.addDays stride)

namespace YearMonth

/-- The first date of a month on a weekday. -/
def firstOn (month : YearMonth) (weekday : Weekday) : Except CalendarError Date := do
  Date.walkTo weekday 1 6 (← month.onDay 1)

/-- The last date of a month on a weekday. -/
def lastOn (month : YearMonth) (weekday : Weekday) : Except CalendarError Date := do
  Date.walkTo weekday (-1) 6 (← month.onDay (← month.length))

/-- The date of a month with a place and a weekday. The first four always exist, since every month
has at least 28 days. -/
def onWeekday (month : YearMonth) (ordinal : Ordinal) (weekday : Weekday) :
    Except CalendarError Date := do
  month.requireMonth
  match ordinal with
  | .first => month.firstOn weekday
  | .second => (← month.firstOn weekday).addDays 7
  | .third => (← month.firstOn weekday).addDays 14
  | .fourth => (← month.firstOn weekday).addDays 21
  | .last => month.lastOn weekday

end YearMonth

end Recurrence
