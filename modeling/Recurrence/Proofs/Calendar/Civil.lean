/-
**Dates by year, month and day.**

Years, months and days lie one behind the other on the line of day numbers, so a day number has one
year, one month and one day of the month. Hence a date can be asked for by these three numbers
exactly when the calendar has such a day:

* `yearOfDay_eq`, `monthOfDay_eq`: the year and the month of a day are the only ones it lies in;
* `Date.ofCivil_eq_ok`: year, month and day in their ranges give the date that has them;
* `YearMonth.onDayOrLast_eq_ok`, `YearMonth.onDayOrLast_eq_error`: a day past the end of a month is
  its last day, in the years of the calendar and only there;
* `Date.ext_parts`: a date is known by its month and its day of the month;
* `Date.lt_of_index_lt`: dates of a later month are later.
-/
import Recurrence.Calendar.YearMonth

namespace Recurrence

/-! ### Years on the line of days -/

/-- Later years begin later. -/
theorem daysBeforeYear_mono {first second : Int} (order : first ≤ second) :
    daysBeforeYear first ≤ daysBeforeYear second := by
  unfold daysBeforeYear
  omega

/-- **A day lies in one year only.** -/
theorem yearOfDay_eq {year dayNumber : Int} (after : daysBeforeYear year < dayNumber)
    (upTo : dayNumber ≤ daysBeforeYear (year + 1)) : yearOfDay dayNumber = year := by
  have lower := daysBeforeYear_yearOfDay_lt dayNumber
  have upper := le_daysBeforeYear_succ dayNumber
  rcases Int.lt_trichotomy (yearOfDay dayNumber) year with earlier | same | later
  · have begun := daysBeforeYear_mono (show yearOfDay dayNumber + 1 ≤ year by omega)
    omega
  · exact same
  · have begun := daysBeforeYear_mono (show year + 1 ≤ yearOfDay dayNumber by omega)
    omega

/-! ### Months on the line of days -/

/-- The days of the earlier months and those of the month itself come before a later month. -/
theorem daysBeforeMonth_add_le (year : Int) {first second : Int} (lower : 1 ≤ first)
    (order : first < second) (upper : second ≤ 12) :
    daysBeforeMonth year first + monthLength year first ≤ daysBeforeMonth year second := by
  rw [← daysBeforeMonth_succ year first lower (by omega)]
  unfold daysBeforeMonth
  by_cases leap : IsLeapYear year <;> simp only [leap, if_true, if_false] <;>
    (repeat' split) <;> omega

/-- No month begins before its year. -/
theorem daysBeforeMonth_nonneg (year : Int) {month : Int} (lower : 1 ≤ month) :
    0 ≤ daysBeforeMonth year month := by
  unfold daysBeforeMonth
  repeat' split
  all_goals omega

/-- No month ends after its year. -/
theorem daysBeforeMonth_add_le_year (year : Int) {month : Int} (lower : 1 ≤ month)
    (upper : month ≤ 12) :
    daysBeforeYear year + daysBeforeMonth year month + monthLength year month ≤
      daysBeforeYear (year + 1) := by
  have december : daysBeforeMonth year 12 + monthLength year 12 =
      if IsLeapYear year then 366 else 365 := by
    by_cases leap : IsLeapYear year <;> simp [daysBeforeMonth, monthLength, leap]
  rw [daysBeforeYear_succ, ← december]
  by_cases last : month = 12
  · subst last
    omega
  · have before := daysBeforeMonth_add_le year lower (show month < 12 by omega)
      (Int.le_refl 12)
    have length := le_monthLength year 12
    omega

/-- **A day of a year lies in one month only.** -/
theorem monthOfDay_eq {year month dayOfYear : Int} (lower : 1 ≤ month) (upper : month ≤ 12)
    (after : daysBeforeMonth year month < dayOfYear)
    (upTo : dayOfYear ≤ daysBeforeMonth year month + monthLength year month) :
    monthOfDay year dayOfYear = month := by
  have first : 1 ≤ dayOfYear := by
    have begun := daysBeforeMonth_nonneg year lower
    omega
  have last : dayOfYear ≤ if IsLeapYear year then 366 else 365 := by
    have ended := daysBeforeMonth_add_le_year year lower upper
    rw [daysBeforeYear_succ] at ended
    omega
  obtain ⟨found, within, begun, ended⟩ := monthOfDay_spec year dayOfYear first last
  rcases Int.lt_trichotomy (monthOfDay year dayOfYear) month with earlier | same | later
  · have before := daysBeforeMonth_add_le year found earlier upper
    omega
  · exact same
  · have before := daysBeforeMonth_add_le year lower later within
    omega

namespace YearMonth

/-- The number of the last day before a month. -/
def daysBefore (month : YearMonth) : Int :=
  daysBeforeYear month.year + daysBeforeMonth month.year month.month

/-- The number of days of a month. -/
def lastDay (month : YearMonth) : Int := monthLength month.year month.month

theorem eq_of_index_eq {first second : YearMonth} (proper : first.IsMonth)
    (proper' : second.IsMonth) (same : first.index = second.index) : first = second := by
  rw [← ofIndex_index proper, same, ofIndex_index proper']

/-- The days of a month come before those of a later one. -/
theorem daysBefore_add_le {first second : YearMonth} (proper : first.IsMonth)
    (proper' : second.IsMonth) (order : first.index < second.index) :
    first.daysBefore + first.lastDay ≤ second.daysBefore := by
  obtain ⟨lower, upper⟩ := proper
  obtain ⟨lower', upper'⟩ := proper'
  unfold daysBefore lastDay
  unfold index at order
  by_cases same : first.year = second.year
  · have before := daysBeforeMonth_add_le second.year lower (by omega) upper'
    rw [same]
    omega
  · have ended := daysBeforeMonth_add_le_year first.year lower upper
    have begun := daysBeforeMonth_nonneg second.year lower'
    have years := daysBeforeYear_mono (show first.year + 1 ≤ second.year by omega)
    omega

end YearMonth

/-! ### Dates of a month -/

namespace Date

/-- The day number of a date, counted from its month. -/
theorem dayNumber_eq (date : Date) : date.dayNumber = date.yearMonth.daysBefore + date.day :=
  (date.dayNumberOf_parts).symm

theorem day_le_lastDay (date : Date) : date.day ≤ date.yearMonth.lastDay :=
  date.day_le_monthLength

/-- **A date is known by its month and its day of the month.** -/
theorem ext_parts {first second : Date} (month : first.yearMonth = second.yearMonth)
    (day : first.day = second.day) : first = second := by
  apply Date.ext
  rw [first.dayNumber_eq, second.dayNumber_eq, month, day]

theorem lt_of_le_of_ne {first second : Date} (order : first ≤ second)
    (different : first ≠ second) : first < second :=
  Int.lt_iff_le_and_ne.mpr ⟨order, fun same => different (Date.ext same)⟩

/-- **Dates of a later month are later.** -/
theorem lt_of_index_lt {first second : Date}
    (order : first.yearMonth.index < second.yearMonth.index) : first < second := by
  have months := YearMonth.daysBefore_add_le (YearMonth.isMonth_yearMonth first)
    (YearMonth.isMonth_yearMonth second) order
  have within := first.day_le_lastDay
  have begun := second.one_le_day
  rw [lt_def, first.dayNumber_eq, second.dayNumber_eq]
  omega

/-- A later date does not lie in an earlier month. -/
theorem index_le_of_le {first second : Date} (order : first ≤ second) :
    first.yearMonth.index ≤ second.yearMonth.index :=
  Int.not_lt.mp fun earlier => Int.not_lt.mpr order (lt_of_index_lt earlier)

/-- A day number within a month belongs to a date of that month. -/
theorem parts_of_dayNumber {date : Date} {month : YearMonth} {day : Int} (proper : month.IsMonth)
    (first : 1 ≤ day) (last : day ≤ month.lastDay)
    (placed : date.dayNumber = month.daysBefore + day) :
    date.yearMonth = month ∧ date.day = day := by
  obtain ⟨lower, upper⟩ := proper
  unfold YearMonth.daysBefore at placed
  unfold YearMonth.lastDay at last
  have begun := daysBeforeMonth_nonneg month.year lower
  have ended := daysBeforeMonth_add_le_year month.year lower upper
  have year : date.year = month.year := yearOfDay_eq (by omega) (by omega)
  have dayOfYear : date.dayOfYear = daysBeforeMonth month.year month.month + day := by
    unfold Date.dayOfYear
    rw [year]
    omega
  have monthNumber : date.month = month.month := by
    unfold Date.month
    rw [year, dayOfYear]
    exact monthOfDay_eq lower upper (by omega) (by omega)
  refine ⟨YearMonth.ext year monthNumber, ?_⟩
  unfold Date.day
  rw [year, monthNumber, dayOfYear]
  omega

/-- The calendar has all days of the months of its years. -/
theorem ofDayNumber_eq_ok {month : YearMonth} (day : Int) (proper : month.IsMonth)
    (firstYear : 1 ≤ month.year) (lastYear : month.year ≤ 9999) (first : 1 ≤ day)
    (last : day ≤ month.lastDay) :
    ∃ date : Date, ofDayNumber (month.daysBefore + day) = .ok date ∧ date.yearMonth = month ∧
      date.day = day := by
  obtain ⟨lower, upper⟩ := id proper
  have begun := daysBeforeMonth_nonneg month.year lower
  have ended := daysBeforeMonth_add_le_year month.year lower upper
  have calendarBegun := daysBeforeYear_mono firstYear
  have calendarEnded := daysBeforeYear_mono (show month.year + 1 ≤ 10000 by omega)
  have zero : daysBeforeYear 1 = 0 := rfl
  have total : daysBeforeYear 10000 = 3652059 := rfl
  have inside : 1 ≤ month.daysBefore + day ∧ month.daysBefore + day ≤ 3652059 := by
    unfold YearMonth.daysBefore
    unfold YearMonth.lastDay at last
    omega
  refine ⟨⟨month.daysBefore + day, inside.1, inside.2⟩, dif_pos inside, ?_⟩
  exact parts_of_dayNumber proper first last rfl

/-- **Year, month and day in their ranges give the date that has them.** -/
theorem ofCivil_eq_ok {month : YearMonth} (day : Int) (proper : month.IsMonth)
    (firstYear : 1 ≤ month.year) (lastYear : month.year ≤ 9999) (first : 1 ≤ day)
    (last : day ≤ month.lastDay) :
    ∃ date : Date, ofCivil month.year month.month day = .ok date ∧ date.yearMonth = month ∧
      date.day = day := by
  obtain ⟨date, _, months, days⟩ := ofDayNumber_eq_ok day proper firstYear lastYear first last
  refine ⟨date, ?_, months, days⟩
  rw [← months, ← days]
  exact date.ofCivil_parts

end Date

namespace YearMonth

/-- The month lies in a year of the calendar. -/
def IsInCalendar (month : YearMonth) : Prop := 1 ≤ month.year ∧ month.year ≤ 9999

instance (month : YearMonth) : Decidable month.IsInCalendar :=
  inferInstanceAs (Decidable (_ ∧ _))

theorem isInCalendar_yearMonth (date : Date) : date.yearMonth.IsInCalendar :=
  ⟨date.one_le_year, date.year_le⟩

/-- What is reported of a month outside the calendar. -/
def outsideCause (month : YearMonth) : CalendarError :=
  .showing .yearOutsideCalendar month.year

theorem requireYear_eq_ok {month : YearMonth} (inside : month.IsInCalendar) :
    month.requireYear = .ok () :=
  if_pos inside

theorem requireYear_eq_error {month : YearMonth} (outside : ¬ month.IsInCalendar) :
    month.requireYear = .error month.outsideCause :=
  if_neg outside

/-- **A day past the end of a month is the month's last day.** -/
theorem onDayOrLast_eq_ok {month : YearMonth} {day : Int} (proper : month.IsMonth)
    (inside : month.IsInCalendar) (first : 1 ≤ day) :
    ∃ date : Date, month.onDayOrLast day = .ok date ∧ date.yearMonth = month ∧
      date.day = min day month.lastDay := by
  have length := le_monthLength month.year month.month
  obtain ⟨date, found, months, days⟩ := Date.ofCivil_eq_ok (min day month.lastDay) proper
    inside.1 inside.2 (by unfold lastDay; omega) (Int.min_le_right ..)
  refine ⟨date, ?_, months, days⟩
  unfold onDayOrLast YearMonth.length
  rw [requireYear_eq_ok inside, if_pos proper]
  exact found

theorem onDayOrLast_eq_error {month : YearMonth} (outside : ¬ month.IsInCalendar) (day : Int) :
    month.onDayOrLast day = .error month.outsideCause := by
  unfold onDayOrLast
  rw [requireYear_eq_error outside]
  rfl

end YearMonth

end Recurrence
