/-
**Dates of the calendar.**

A date is its day number, from day 1 (the first of January of year 1) to day 3652059 (the last of
December of year 9999). Order, distance and weekday are those of the numbers; year, month and day of
the month are read off by `Date.year`, `Date.month` and `Date.day`.

`Date.ofCivil` builds a date from year, month and day and names the first of them that is wrong;
`Date.iso` writes a date as `YYYY-MM-DD`, and `Date.ofIso?` reads it.

* `Date.ext`: a date is known by its number;
* `Date.dayNumberOf_parts`, `Date.ofCivil_parts`: it is also known by its year, month and day;
* `Date.one_le_year`, `Date.year_le`, `Date.one_le_month`, `Date.month_le`, `Date.one_le_day`,
  `Date.day_le_monthLength`: the ranges of these parts.
-/
import Recurrence.Calendar.Gregorian
import Recurrence.Calendar.Error
import Recurrence.Text.Digit

namespace Recurrence

/-- A date from 0001-01-01 to 9999-12-31. -/
@[ext]
structure Date where
  /-- The number of the day, 0001-01-01 being day 1. -/
  dayNumber : Int
  /-- The calendar begins with day 1. -/
  one_le : 1 ≤ dayNumber
  /-- The calendar ends with day 3652059. -/
  le_last : dayNumber ≤ 3652059

instance : DecidableEq Date := fun _ _ => decidable_of_iff _ Date.ext_iff.symm

/-- A day of the week, 0 being Sunday and 6 Saturday. -/
abbrev Weekday := Fin 7

namespace Date

instance : LE Date := ⟨fun first second => first.dayNumber ≤ second.dayNumber⟩

instance : LT Date := ⟨fun first second => first.dayNumber < second.dayNumber⟩

instance (first second : Date) : Decidable (first ≤ second) :=
  inferInstanceAs (Decidable (first.dayNumber ≤ second.dayNumber))

instance (first second : Date) : Decidable (first < second) :=
  inferInstanceAs (Decidable (first.dayNumber < second.dayNumber))

theorem le_def {first second : Date} : first ≤ second ↔ first.dayNumber ≤ second.dayNumber :=
  Iff.rfl

theorem lt_def {first second : Date} : first < second ↔ first.dayNumber < second.dayNumber :=
  Iff.rfl

/-! ### Parts of a date -/

/-- The year of a date. -/
def year (date : Date) : Int := yearOfDay date.dayNumber

/-- The number of a date within its year, from 1. -/
def dayOfYear (date : Date) : Int := date.dayNumber - daysBeforeYear date.year

/-- The month of a date, from 1 to 12. -/
def month (date : Date) : Int := monthOfDay date.year date.dayOfYear

/-- The day of the month, from 1. -/
def day (date : Date) : Int := date.dayOfYear - daysBeforeMonth date.year date.month

/-- No date lies before year 1. -/
theorem one_le_year (date : Date) : 1 ≤ date.year := by
  have within := le_daysBeforeYear_succ date.dayNumber
  have first := date.one_le
  simp only [year, daysBeforeYear] at *
  omega

/-- No date lies after year 9999. -/
theorem year_le (date : Date) : date.year ≤ 9999 := by
  have later := daysBeforeYear_yearOfDay_lt date.dayNumber
  have last := date.le_last
  simp only [year, daysBeforeYear] at *
  omega

theorem one_le_dayOfYear (date : Date) : 1 ≤ date.dayOfYear := by
  have later := daysBeforeYear_yearOfDay_lt date.dayNumber
  unfold dayOfYear year
  omega

theorem dayOfYear_le (date : Date) :
    date.dayOfYear ≤ if IsLeapYear date.year then 366 else 365 := by
  have within := le_daysBeforeYear_succ date.dayNumber
  rw [daysBeforeYear_succ] at within
  unfold dayOfYear year
  omega

/-- The month of a date is one of the twelve, and the day of the year lies in it. -/
theorem month_spec (date : Date) :
    1 ≤ date.month ∧ date.month ≤ 12 ∧ daysBeforeMonth date.year date.month < date.dayOfYear ∧
      date.dayOfYear ≤ daysBeforeMonth date.year date.month + monthLength date.year date.month :=
  monthOfDay_spec date.year date.dayOfYear date.one_le_dayOfYear date.dayOfYear_le

theorem one_le_month (date : Date) : 1 ≤ date.month := date.month_spec.1

theorem month_le (date : Date) : date.month ≤ 12 := date.month_spec.2.1

/-- The first of a month is day 1. -/
theorem one_le_day (date : Date) : 1 ≤ date.day := by
  have within := date.month_spec
  unfold day
  omega

/-- No day of the month comes after the month's last. -/
theorem day_le_monthLength (date : Date) : date.day ≤ monthLength date.year date.month := by
  have within := date.month_spec
  unfold day
  omega

theorem day_le (date : Date) : date.day ≤ 31 :=
  Int.le_trans date.day_le_monthLength (monthLength_le ..)

/-- Year, month and day make up the number of a date. -/
theorem dayNumberOf_parts (date : Date) :
    dayNumberOf date.year date.month date.day = date.dayNumber := by
  unfold dayNumberOf day dayOfYear
  omega

/-- The day of the week; day 1 was a Monday. -/
def weekday (date : Date) : Weekday :=
  ⟨(date.dayNumber % 7).toNat, by omega⟩

/-! ### Building dates -/

/-- The date with a number, if the calendar has it. -/
def ofDayNumber (dayNumber : Int) : Except CalendarError Date :=
  if inside : 1 ≤ dayNumber ∧ dayNumber ≤ 3652059 then .ok ⟨dayNumber, inside.1, inside.2⟩
  else .error .dateOutOfRange

/-- The date some days later, or earlier. -/
def addDays (date : Date) (days : Int) : Except CalendarError Date :=
  ofDayNumber (date.dayNumber + days)

/-- The Sunday on or before a date. -/
def weekStart (date : Date) : Except CalendarError Date :=
  date.addDays (-(date.weekday.val : Int))

/-- Lets numbers of 32 bits pass. -/
def fitWord (number : Int) : Except CalendarError Unit :=
  if Fits32 number then .ok ()
  else if ¬ Fits64 number then .error .numberTooWide
  else if 0 < number then .error .numberTooLarge
  else .error .numberTooSmall

/-- The date with the given year, month and day. All three numbers are fitted into a word before the
ranges of year, month and day are looked at, in this order. -/
def ofCivil (year month day : Int) : Except CalendarError Date := do
  fitWord year
  fitWord month
  fitWord day
  if year < 1 ∨ 9999 < year then throw (.noSuchYear year)
  if month < 1 ∨ 12 < month then throw .noSuchMonth
  if day < 1 ∨ monthLength year month < day then throw .noSuchDay
  ofDayNumber (dayNumberOf year month day)

/-- A date is found again by its year, month and day. -/
theorem ofCivil_parts (date : Date) : ofCivil date.year date.month date.day = .ok date := by
  have year := And.intro date.one_le_year date.year_le
  have month := And.intro date.one_le_month date.month_le
  have day := And.intro date.one_le_day date.day_le_monthLength
  have short := date.day_le
  have noWrongYear : ¬ (date.year < 1 ∨ 9999 < date.year) := by omega
  have noWrongMonth : ¬ (date.month < 1 ∨ 12 < date.month) := by omega
  have noWrongDay : ¬ (date.day < 1 ∨ monthLength date.year date.month < date.day) := by omega
  have narrow {number : Int} (low : 1 ≤ number) (high : number ≤ 9999) :
      fitWord number = .ok () :=
    if_pos ⟨by omega, by omega⟩
  simp [ofCivil, narrow year.1 year.2, narrow month.1 (by omega), narrow day.1 (by omega),
    noWrongYear, noWrongMonth, noWrongDay, dayNumberOf_parts, ofDayNumber, date.one_le,
    date.le_last, bind, Except.bind]

/-! ### Written dates -/

/-- The written form `YYYY-MM-DD`. -/
def iso (date : Date) : String :=
  Text.padded 4 date.year ++ "-" ++ Text.padded 2 date.month ++ "-" ++ Text.padded 2 date.day

/-- The three numbers of the written form `YYYY-MM-DD`, with ASCII digits. -/
def isoParts? : List Char → Option (Int × Int × Int)
  | [y₁, y₂, y₃, y₄, '-', m₁, m₂, '-', d₁, d₂] => do
    let year ← Text.digits? [y₁, y₂, y₃, y₄]
    let month ← Text.digits? [m₁, m₂]
    let day ← Text.digits? [d₁, d₂]
    return (year, month, day)
  | _ => none

/-- Reads the written form `YYYY-MM-DD` of a date. -/
def ofIso? (text : String) : Option Date := do
  let (year, month, day) ← isoParts? text.toList
  (ofCivil year month day).toOption

end Date

end Recurrence
