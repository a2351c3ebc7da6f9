/-
**Years and months of the Gregorian calendar.**

The calendar is carried backwards and forwards without end, so every whole number is a year and the
year before year 1 is year 0. Days are counted from day 1, the first of January of year 1.

* `monthLength_le`: no month has more than 31 days;
* `daysBeforeYear_succ`: a year has 365 days, a leap year one more;
* `daysBeforeYear_yearOfDay_lt`, `le_daysBeforeYear_succ`: every day lies in its year;
* `daysBeforeMonth_succ`: the days before a month and its length are the days before the next one;
* `monthOfDay_spec`: every day of a year lies in its month.
-/

namespace Recurrence

/-! ### Years -/

/-- Every fourth year is a leap year, but of the full centuries only every fourth. -/
def IsLeapYear (year : Int) : Prop :=
  year % 4 = 0 ∧ (year % 100 ≠ 0 ∨ year % 400 = 0)

instance (year : Int) : Decidable (IsLeapYear year) :=
  inferInstanceAs (Decidable (_ ∧ _))

/-- The number of days from day 1 to the end of the previous year. -/
def daysBeforeYear (year : Int) : Int :=
  (year - 1) * 365 + (year - 1) / 4 - (year - 1) / 100 + (year - 1) / 400

/-- A year has 365 days, a leap year one more. -/
theorem daysBeforeYear_succ (year : Int) :
    daysBeforeYear (year + 1) = daysBeforeYear year + (if IsLeapYear year then 366 else 365) := by
  by_cases leap : IsLeapYear year
  · rw [if_pos leap]
    unfold IsLeapYear at leap
    unfold daysBeforeYear
    omega
  · rw [if_neg leap]
    unfold IsLeapYear at leap
    unfold daysBeforeYear
    omega

/-- The year a day lies in: 400 years have 146097 days, which gives the year up to one. -/
def yearOfDay (dayNumber : Int) : Int :=
  let estimate := 400 * (dayNumber - 1) / 146097 + 1
  if dayNumber ≤ daysBeforeYear estimate then estimate - 1
  else if daysBeforeYear (estimate + 1) < dayNumber then estimate + 1
  else estimate

/-- A day comes after the days before its year. -/
theorem daysBeforeYear_yearOfDay_lt (dayNumber : Int) :
    daysBeforeYear (yearOfDay dayNumber) < dayNumber := by
  unfold yearOfDay daysBeforeYear
  simp only []
  split
  · omega
  · split <;> omega

/-- A day is among the days before the year after its own. -/
theorem le_daysBeforeYear_succ (dayNumber : Int) :
    dayNumber ≤ daysBeforeYear (yearOfDay dayNumber + 1) := by
  unfold yearOfDay daysBeforeYear
  simp only []
  split
  · omega
  · split <;> omega

/-! ### Months -/

/-- The number of days of a month, the months being numbered from 1 to 12. -/
def monthLength (year month : Int) : Int :=
  if month = 2 then (if IsLeapYear year then 29 else 28)
  else if month = 4 ∨ month = 6 ∨ month = 9 ∨ month = 11 then 30
  else 31

theorem monthLength_le (year month : Int) : monthLength year month ≤ 31 := by
  unfold monthLength
  repeat' split
  all_goals omega

theorem le_monthLength (year month : Int) : 28 ≤ monthLength year month := by
  unfold monthLength
  repeat' split
  all_goals omega

/-- The number of days of a year before the first of a month. Seen from March the lengths of the
months alternate so evenly that one division counts them. -/
def daysBeforeMonth (year month : Int) : Int :=
  (367 * month - 362) / 12 -
    (if month ≤ 2 then 0 else if IsLeapYear year then 1 else 2)

/-- The days before a month and its length are the days before the next one. -/
theorem daysBeforeMonth_succ (year month : Int) (first : 1 ≤ month) (last : month < 12) :
    daysBeforeMonth year (month + 1) = daysBeforeMonth year month + monthLength year month := by
  have cases : month = 1 ∨ month = 2 ∨ month = 3 ∨ month = 4 ∨ month = 5 ∨ month = 6 ∨ month = 7 ∨
      month = 8 ∨ month = 9 ∨ month = 10 ∨ month = 11 := by omega
  unfold daysBeforeMonth monthLength
  rcases cases with rfl | rfl | rfl | rfl | rfl | rfl | rfl | rfl | rfl | rfl | rfl <;>
    by_cases leap : IsLeapYear year <;> simp [leap]

/-- The month of the day with a number within its year. -/
def monthOfDay (year dayOfYear : Int) : Int :=
  let estimate := (dayOfYear + 49) / 32
  if dayOfYear ≤ daysBeforeMonth year estimate then estimate - 1 else estimate

/-- The month of a day is one of the twelve, and the day lies in it. -/
theorem monthOfDay_spec (year dayOfYear : Int) (first : 1 ≤ dayOfYear)
    (last : dayOfYear ≤ if IsLeapYear year then 366 else 365) :
    1 ≤ monthOfDay year dayOfYear ∧ monthOfDay year dayOfYear ≤ 12 ∧
      daysBeforeMonth year (monthOfDay year dayOfYear) < dayOfYear ∧
      dayOfYear ≤ daysBeforeMonth year (monthOfDay year dayOfYear) +
        monthLength year (monthOfDay year dayOfYear) := by
  unfold monthOfDay
  by_cases leap : IsLeapYear year <;>
    simp only [daysBeforeMonth, monthLength, leap, if_true, if_false] at * <;>
    (repeat' split) <;> omega

/-- The number of a day given by year, month and day of the month. -/
def dayNumberOf (year month day : Int) : Int :=
  daysBeforeYear year + daysBeforeMonth year month + day

end Recurrence
