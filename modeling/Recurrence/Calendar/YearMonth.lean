/-
**Months of years.**

A `YearMonth` is a month counted within its year. Months follow one another without end, so they can
be numbered through (`YearMonth.index`) and shifted by any number of months (`YearMonth.shift`).
Their days belong to the calendar only in the years 1 to 9999.

* `YearMonth.index_shift`: a shift adds to the index;
* `YearMonth.ofIndex_index`: a month that is one of the twelve is known by its index;
* `YearMonth.shift_shift`, `YearMonth.shift_zero`: shifts add up.
-/
import Recurrence.Calendar.Date

namespace Recurrence

/-- A month of a year. Any number may stand for the month until something is asked of it that needs
one of the twelve. -/
@[ext]
structure YearMonth where
  year : Int
  month : Int
deriving DecidableEq

/-- The month of a date. -/
def Date.yearMonth (date : Date) : YearMonth := ⟨date.year, date.month⟩

namespace YearMonth

/-- The month is one of the twelve. -/
def IsMonth (month : YearMonth) : Prop := 1 ≤ month.month ∧ month.month ≤ 12

instance (month : YearMonth) : Decidable month.IsMonth :=
  inferInstanceAs (Decidable (_ ∧ _))

theorem isMonth_yearMonth (date : Date) : date.yearMonth.IsMonth :=
  ⟨date.one_le_month, date.month_le⟩

/-! ### Counting months -/

/-- The number of a month, January of year 0 being number 0. -/
def index (month : YearMonth) : Int := month.year * 12 + (month.month - 1)

/-- The month with a number. -/
def ofIndex (index : Int) : YearMonth := ⟨index / 12, index % 12 + 1⟩

/-- The month some months later, or earlier. -/
def shift (month : YearMonth) (months : Int) : YearMonth := ofIndex (month.index + months)

theorem isMonth_ofIndex (index : Int) : (ofIndex index).IsMonth := by
  simp only [IsMonth, ofIndex]
  omega

@[simp]
theorem index_ofIndex (number : Int) : (ofIndex number).index = number := by
  simp only [index, ofIndex]
  omega

/-- A month that is one of the twelve is known by its index. -/
theorem ofIndex_index {month : YearMonth} (proper : month.IsMonth) :
    ofIndex month.index = month := by
  unfold IsMonth at proper
  ext <;> simp only [index, ofIndex] <;> omega

/-- A shift adds to the index. -/
@[simp]
theorem index_shift (month : YearMonth) (months : Int) :
    (month.shift months).index = month.index + months :=
  index_ofIndex _

theorem isMonth_shift (month : YearMonth) (months : Int) : (month.shift months).IsMonth :=
  isMonth_ofIndex _

/-- Shifts add up. -/
theorem shift_shift (month : YearMonth) (first second : Int) :
    (month.shift first).shift second = month.shift (first + second) := by
  simp only [shift, index_ofIndex, Int.add_assoc]

theorem shift_zero {month : YearMonth} (proper : month.IsMonth) : month.shift 0 = month := by
  simp only [shift, Int.add_zero, ofIndex_index proper]

/-! ### Days of a month -/

/-- Lets the months of the years 1 to 9999 pass. -/
def requireYear (month : YearMonth) : Except CalendarError Unit :=
  if 1 ≤ month.year ∧ month.year ≤ 9999 then .ok ()
  else .error (.showing .yearOutsideCalendar month.year)

/-- Lets the twelve months of a year pass. -/
def requireMonth (month : YearMonth) : Except CalendarError Unit :=
  if month.IsMonth then .ok () else .error (.showing .monthOutOfRange month.month)

/-- The number of days of a month, of any year. -/
def length (month : YearMonth) : Except CalendarError Int :=
  if month.IsMonth then .ok (monthLength month.year month.month)
  else .error (.noMonthLength month.month)

/-- The date on a day of the month. -/
def onDay (month : YearMonth) (day : Int) : Except CalendarError Date :=
  Date.ofCivil month.year month.month day

/-- The date on a day of the month, or on the month's last day if the day lies past its end. -/
def onDayOrLast (month : YearMonth) (day : Int) : Except CalendarError Date := do
  month.requireYear
  month.onDay (min day (← month.length))

end YearMonth

end Recurrence
