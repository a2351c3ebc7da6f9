/-
**A month as rows of weeks.**

The grid of a month has rows of seven days from Sunday to Saturday, from the week of the month's
first day to the week of its last, so it may show days of the months before and after
(`YearMonth.gridDates`). `MonthView.showing` marks the days that are selected.
-/
import Recurrence.Calendar.YearMonth

namespace Recurrence

/-! ### The grid -/

namespace YearMonth

/-- The days of a month from one to another, both included. -/
def daysBetween (month : YearMonth) (first last : Int) : List (YearMonth × Int) :=
  (List.range (last + 1 - first).toNat).map fun (further : Nat) => (month, first + further)

/-- The days of a month's grid: the last days of the month before from Sunday on, the month, and the
first days of the month after up to Saturday. -/
def gridDays (month : YearMonth) : List (YearMonth × Int) :=
  let before := month.shift (-1)
  let lengthBefore := monthLength before.year before.month
  let length := monthLength month.year month.month
  let firstWeekday := dayNumberOf month.year month.month 1 % 7
  before.daysBetween (lengthBefore - firstWeekday + 1) lengthBefore ++
    month.daysBetween 1 length ++
    (month.shift 1).daysBetween 1 (-(firstWeekday + length) % 7)

/-- The dates of a month's grid. The first day that the calendar lacks is reported. -/
def gridDates (month : YearMonth) : Except CalendarError (List Date) := do
  month.requireMonth
  month.gridDays.mapM fun (month, day) => month.onDay day

/-- The last date of a month's grid, which may fall into the month after. -/
def gridEnd (month : YearMonth) : Except CalendarError Date := do
  match (← month.gridDates).getLast? with
  | some last => return last
  | none => throw .dateOutOfRange

end YearMonth

/-- A list cut into rows of seven; the last row may be shorter. -/
def weekRows {α : Type} : List α → List (List α)
  | sunday :: monday :: tuesday :: wednesday :: thursday :: friday :: saturday :: days =>
    [sunday, monday, tuesday, wednesday, thursday, friday, saturday] :: weekRows days
  | [] => []
  | days => [days]

/-! ### The view -/

/-- A day of the grid. -/
structure Cell where
  date : Date
  inMonth : Bool
  selected : Bool
deriving DecidableEq

/-- A month as rows of days. -/
structure MonthView where
  month : YearMonth
  weeks : List (List Cell)
deriving DecidableEq

namespace MonthView

/-- The view of a month with the given dates selected. -/
def showing (dates : List Date) (month : YearMonth) : Except CalendarError MonthView := do
  let grid ← month.gridDates
  let shown := match grid.head?, grid.getLast? with
    | some first, some last => dates.filter fun date => first ≤ date ∧ date ≤ last
    | _, _ => []
  let cells := grid.map fun date =>
    { date, inMonth := date.month == month.month, selected := shown.contains date : Cell }
  return { month, weeks := weekRows cells }

/-- The selected dates of the month itself, in order. -/
def selection (view : MonthView) : List Date :=
  (view.weeks.flatten.filter fun cell => cell.inMonth && cell.selected).map (·.date)

/-- The number of selected dates of the month itself. -/
def count (view : MonthView) : Nat := view.selection.length

end MonthView

end Recurrence
