/-
**The place of a date among those of its weekday in its month.**

A month has four or five dates on a weekday, whole weeks apart. So a date is found again by its
place and its weekday. Conversely a place is told again from the date that it marks, except that the
last one of four is called the fourth; it is found again by that place, too.

* `YearMonth.onDay_eq_ok_iff`: a date is made only of its own year, month and day;
* `YearMonth.mem_dates`, `YearMonth.pairwise_dates`: the dates of a month in order;
* `YearMonth.map_day_datesOn`: those on a weekday, counted from the first one;
* `Date.ordinal_eq_of_marks`: the place of a date, given one that marks it;
* `MonthForm.onWeekday_place`: places and dates found from each other.
-/
import Mathlib.Data.List.Sort
import Recurrence.Proofs.Calendar.MonthForm

namespace Recurrence

namespace YearMonth

/-! ### The dates of a month -/

/-- **A date is made only of its own year, month and day.** -/
theorem onDay_eq_ok_iff {month : YearMonth} {day : Int} {date : Date} :
    month.onDay day = .ok date ↔ date.yearMonth = month ∧ date.day = day := by
  constructor
  · intro made
    have ranges : month.IsInCalendar ∧ month.IsMonth ∧ 1 ≤ day ∧ day ≤ month.lastDay := by
      unfold onDay Date.ofCivil at made
      obtain ⟨_, _, made⟩ := bind_eq_ok_iff.mp made
      obtain ⟨_, _, made⟩ := bind_eq_ok_iff.mp made
      obtain ⟨_, _, made⟩ := bind_eq_ok_iff.mp made
      by_cases noYear : month.year < 1 ∨ 9999 < month.year
      · rw [if_pos noYear] at made
        cases made
      rw [if_neg noYear] at made
      by_cases noMonth : month.month < 1 ∨ 12 < month.month
      · rw [if_pos noMonth] at made
        cases made
      rw [if_neg noMonth] at made
      by_cases noDay : day < 1 ∨ monthLength month.year month.month < day
      · rw [if_pos noDay] at made
        cases made
      exact ⟨⟨by omega, by omega⟩, ⟨by omega, by omega⟩, by omega, by unfold lastDay; omega⟩
    obtain ⟨inside, proper, first, last⟩ := ranges
    obtain ⟨other, found, months, days⟩ :=
      Date.ofCivil_eq_ok day proper inside.1 inside.2 first last
    cases found.symm.trans made
    exact ⟨months, days⟩
  · rintro ⟨rfl, rfl⟩
    exact date.ofCivil_parts

/-- The dates of a month, in order; there is none on a day that the month lacks. -/
def dates (month : YearMonth) : List Date :=
  (List.range 31).filterMap fun number : Nat => (month.onDay (number + 1)).toOption

/-- The dates of a month on a weekday, in order. -/
def datesOn (month : YearMonth) (weekday : Weekday) : List Date :=
  month.dates.filter (·.weekday = weekday)

theorem mem_dates {month : YearMonth} {date : Date} :
    date ∈ month.dates ↔ date.yearMonth = month := by
  unfold dates
  rw [List.mem_filterMap]
  constructor
  · rintro ⟨number, _, found⟩
    exact (onDay_eq_ok_iff.mp (eq_ok_of_toOption found)).1
  · intro own
    have first := date.one_le_day
    have last := date.day_le
    refine ⟨(date.day - 1).toNat, List.mem_range.mpr (by omega), ?_⟩
    rw [onDay_eq_ok_iff.mpr ⟨own, by omega⟩]
    rfl

theorem pairwise_dates (month : YearMonth) : month.dates.Pairwise (· < ·) := by
  refine List.Pairwise.filterMap _ ?_ List.pairwise_lt_range
  intro number later order date found date' found'
  obtain ⟨own, day⟩ := onDay_eq_ok_iff.mp (eq_ok_of_toOption found)
  obtain ⟨own', day'⟩ := onDay_eq_ok_iff.mp (eq_ok_of_toOption found')
  rw [Date.lt_def, date.dayNumber_eq, date'.dayNumber_eq, own, own', day, day']
  omega

theorem mem_datesOn {month : YearMonth} {weekday : Weekday} {date : Date} :
    date ∈ month.datesOn weekday ↔ date.yearMonth = month ∧ date.weekday = weekday := by
  unfold datesOn
  rw [List.mem_filter, mem_dates, decide_eq_true_eq]

theorem pairwise_datesOn (month : YearMonth) (weekday : Weekday) :
    (month.datesOn weekday).Pairwise (· < ·) :=
  month.pairwise_dates.filter _

/-- A month has the days of a weekday that are whole weeks after the first one. -/
theorem exists_weeks_after {first : Date} (early : first.day ≤ 7) {day : Int} :
    (∃ date : Date, date.yearMonth = first.yearMonth ∧ date.weekday = first.weekday ∧
      date.day = day) ↔ ∃ weeks : Nat, day = first.day + 7 * weeks ∧
        day ≤ first.yearMonth.lastDay := by
  have begun := first.one_le_day
  have placed := first.dayNumber_eq
  have remainder := first.weekday_val
  constructor
  · rintro ⟨date, own, on, rfl⟩
    have upTo := date.day_le_lastDay
    have begun' := date.one_le_day
    have placed' := date.dayNumber_eq
    have remainder' := date.weekday_val
    rw [own] at upTo placed'
    rw [on] at remainder'
    exact ⟨((date.day - first.day) / 7).toNat, by omega, upTo⟩
  · rintro ⟨weeks, rfl, upTo⟩
    obtain ⟨inside, inside'⟩ := isInCalendar_yearMonth first
    obtain ⟨date, _, own, day⟩ := Date.ofDayNumber_eq_ok (first.day + 7 * weeks)
      (isMonth_yearMonth first) inside inside' (by omega) upTo
    have placed' := date.dayNumber_eq
    rw [own, day] at placed'
    refine ⟨date, own, ?_, day⟩
    rw [Date.weekday_eq_iff]
    omega

/-- **The dates on a weekday are the first one and those up to four weeks after it.** -/
theorem map_day_datesOn {first : Date} (early : first.day ≤ 7) :
    (first.yearMonth.datesOn first.weekday).map Date.day =
      (List.range (if first.day + 28 ≤ first.yearMonth.lastDay then 5 else 4)).map
        fun weeks : Nat => first.day + 7 * weeks := by
  have begun := first.one_le_day
  have long : 28 ≤ first.yearMonth.lastDay := le_monthLength first.year first.month
  have short : first.yearMonth.lastDay ≤ 31 := monthLength_le first.year first.month
  refine List.Pairwise.eq_of_mem_iff (r := (· < ·)) ?_ ?_ ?_
  · rw [List.pairwise_map]
    refine (pairwise_datesOn _ _).imp_of_mem ?_
    intro earlier later inside inside' order
    have own := (mem_datesOn.mp inside).1
    have own' := (mem_datesOn.mp inside').1
    rw [Date.lt_def, earlier.dayNumber_eq, later.dayNumber_eq, own, own'] at order
    omega
  · rw [List.pairwise_map]
    exact List.pairwise_lt_range.imp fun order => by omega
  · intro day
    have members : day ∈ (first.yearMonth.datesOn first.weekday).map Date.day ↔
        ∃ date : Date, date.yearMonth = first.yearMonth ∧ date.weekday = first.weekday ∧
          date.day = day := by
      simp only [List.mem_map, mem_datesOn, and_assoc]
    rw [members, exists_weeks_after early, List.mem_map]
    refine exists_congr fun weeks => ?_
    rw [List.mem_range]
    constructor
    · rintro ⟨rfl, upTo⟩
      exact ⟨by split <;> omega, rfl⟩
    · rintro ⟨few, rfl⟩
      refine ⟨rfl, ?_⟩
      split at few <;> omega

end YearMonth

/-! ### Places -/

namespace Date

/-- A date is marked by its own place. -/
theorem ordinal_marks (date : Date) : date.ordinal.Marks date := by
  have short : date.yearMonth.lastDay ≤ 31 := monthLength_le date.year date.month
  unfold ordinal
  repeat' split
  all_goals
    simp only [Ordinal.Marks]
    omega

/-- The last date on a weekday is the fourth one if there are only four. -/
theorem length_datesOn {date : Date} (last : Ordinal.last.Marks date) :
    (date.yearMonth.datesOn date.weekday).length = if date.day ≤ 28 then 4 else 5 := by
  have proper := YearMonth.isMonth_yearMonth date
  have inside := YearMonth.isInCalendar_yearMonth date
  obtain ⟨first, _, own, on, early⟩ := YearMonth.firstOn_eq_ok proper inside date.weekday
  have counted := congrArg List.length (YearMonth.map_day_datesOn early)
  rw [List.length_map, List.length_map, List.length_range, own, on] at counted
  have begun := first.one_le_day
  have upTo := date.day_le_lastDay
  have placed := first.dayNumber_eq
  have placed' := date.dayNumber_eq
  have remainder := first.weekday_val
  have remainder' := date.weekday_val
  rw [own] at placed
  rw [on] at remainder
  simp only [Ordinal.Marks] at last
  rw [counted]
  split <;> split <;> omega

/-- **A date that a place marks has that place,** but the last one of four is the fourth. -/
theorem ordinal_eq_of_marks {date : Date} {ordinal : Ordinal} (marks : ordinal.Marks date) :
    date.ordinal =
      if ordinal = .last ∧ (date.yearMonth.datesOn date.weekday).length = 4 then .fourth
      else ordinal := by
  have begun := date.one_le_day
  cases ordinal with
  | last =>
    have long : 28 ≤ date.yearMonth.lastDay := le_monthLength date.year date.month
    rw [length_datesOn marks]
    simp only [Ordinal.Marks] at marks
    by_cases early : date.day ≤ 28
    · rw [if_pos early, if_pos ⟨rfl, rfl⟩]
      unfold Date.ordinal
      rw [if_neg (by omega), if_neg (by omega), if_neg (by omega), if_pos early]
    · rw [if_neg early, if_neg (by decide)]
      unfold Date.ordinal
      rw [if_neg (by omega), if_neg (by omega), if_neg (by omega), if_neg early]
  | first | second | third | fourth =>
    simp only [Ordinal.Marks] at marks
    rw [if_neg (by simp)]
    unfold Date.ordinal
    repeat' split
    all_goals first | rfl | omega

end Date

namespace MonthForm

/-- A date is found by its weekday and a place that marks it. -/
theorem onWeekday_of_marks {date : Date} {ordinal : Ordinal} (marks : ordinal.Marks date) :
    date.yearMonth.toForm.onWeekday (.text ordinal.name) (.ofWeekday date.weekday) = .ok date := by
  have proper := YearMonth.isMonth_yearMonth date
  have inside := YearMonth.isInCalendar_yearMonth date
  obtain ⟨other, found, own, on, marks'⟩ :=
    YearMonth.onWeekday_eq_ok proper inside ordinal date.weekday
  have same : other = date := marks'.unique marks own on
  rw [onWeekday_toForm proper inside, Value.asOrdinal_name, Value.asWeekday_ofWeekday]
  simp only [mapError_ok, found, same, bind, Except.bind]

/-- **Places and dates are found from each other.** A date is found by its place and its weekday. In
every month a place and a weekday give a date that has this place, but for the last one of only four
dates on the weekday, which is the fourth; and it is found again by the place that it has. -/
theorem onWeekday_place :
    (∀ date : Date, date.yearMonth.toForm.onWeekday (.text date.ordinal.name)
      (.ofWeekday date.weekday) = .ok date) ∧
    ∀ month : YearMonth, month.IsMonth → month.IsInCalendar →
      ∀ (ordinal : Ordinal) (weekday : Weekday), ∃ date : Date,
        month.toForm.onWeekday (.text ordinal.name) (.ofWeekday weekday) = .ok date ∧
        date.ordinal =
          (if ordinal = .last ∧ (month.datesOn weekday).length = 4 then .fourth else ordinal) ∧
        month.toForm.onWeekday (.text date.ordinal.name) (.ofWeekday weekday) = .ok date := by
  refine ⟨fun date => onWeekday_of_marks date.ordinal_marks, ?_⟩
  intro month proper inside ordinal weekday
  obtain ⟨date, _, own, on, marks⟩ := YearMonth.onWeekday_eq_ok proper inside ordinal weekday
  subst own on
  exact ⟨date, onWeekday_of_marks marks, date.ordinal_eq_of_marks marks,
    onWeekday_of_marks date.ordinal_marks⟩

/-- The last Sunday of February 2026 is its fourth one, that of March a fifth one. -/
theorem onWeekday_place_sundays :
    (⟨2026, 2⟩ : YearMonth).IsMonth ∧ (⟨2026, 2⟩ : YearMonth).IsInCalendar ∧
      (∃ date : Date,
        (YearMonth.toForm ⟨2026, 2⟩).onWeekday (.text "last") (.int 0) = .ok date ∧
        date.ordinal = .fourth ∧
        (YearMonth.toForm ⟨2026, 2⟩).onWeekday (.text "fourth") (.int 0) = .ok date) ∧
      ∃ date : Date,
        (YearMonth.toForm ⟨2026, 3⟩).onWeekday (.text "last") (.int 0) = .ok date ∧
        date.ordinal = .last := by
  have proper : (⟨2026, 2⟩ : YearMonth).IsMonth := by decide
  have inside : (⟨2026, 2⟩ : YearMonth).IsInCalendar := by decide
  have four : (YearMonth.datesOn ⟨2026, 2⟩ 0).length = 4 := by decide +kernel
  have five : (YearMonth.datesOn ⟨2026, 3⟩ 0).length = 5 := by decide +kernel
  obtain ⟨_, marked⟩ := onWeekday_place
  obtain ⟨date, found, place, again⟩ := marked ⟨2026, 2⟩ proper inside .last 0
  obtain ⟨date', found', place', _⟩ := marked ⟨2026, 3⟩ (by decide) (by decide) .last 0
  rw [four, if_pos ⟨rfl, rfl⟩] at place
  rw [five, if_neg (by decide)] at place'
  rw [place] at again
  exact ⟨proper, inside, ⟨date, found, place, again⟩, date', found', place'⟩

end MonthForm

end Recurrence
