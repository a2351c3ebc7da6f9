/-
**Weeks, and weekdays of a month.**

Weeks run from Sunday to Saturday and are numbered through, the one that day 1 lies in being week 0.
Seven days in a row fall on seven weekdays, so a walk from day to day reaches a weekday within six
steps, and a month has exactly one date with a given weekday among its first seven days, among the
next seven, and so on, and among its last seven.

* `Date.dayNumber_eq_week`: week and weekday make up the number of a date;
* `Date.addDays_eq_ok`, `Date.addDays_eq_error`: a number of days leads to a date or out of the
  calendar;
* `Date.weekStart_eq_ok`, `Date.weekStart_eq_error`: every week but the first has its Sunday;
* `Date.walkTo_eq_ok`: a walk ends at the first date on the weekday;
* `YearMonth.onWeekday_eq_ok`: an ordinal and a weekday give the date they mark;
* `Ordinal.Marks.unique`: they mark one date only.
-/
import Recurrence.Calendar.Ordinal
import Recurrence.Proofs.Calendar.Civil

namespace Recurrence

namespace Date

/-! ### Weeks -/

/-- The number of the week, from Sunday to Saturday, that a date lies in. -/
def week (date : Date) : Int := date.dayNumber / 7

/-- The weekday of a date is what whole weeks leave of its number. -/
theorem weekday_val (date : Date) : (date.weekday.val : Int) = date.dayNumber % 7 := by
  have nonneg : 0 ≤ date.dayNumber % 7 := by omega
  exact Int.toNat_of_nonneg nonneg

theorem weekday_eq_iff {date : Date} {weekday : Weekday} :
    date.weekday = weekday ↔ date.dayNumber % 7 = weekday.val := by
  rw [← date.weekday_val, Fin.ext_iff, Int.natCast_inj]

/-- **Week and weekday make up the number of a date.** -/
theorem dayNumber_eq_week (date : Date) : date.dayNumber = 7 * date.week + date.weekday.val := by
  rw [weekday_val]
  unfold week
  omega

/-! ### Steps of days -/

/-- A number of days that leads to a date. -/
theorem addDays_eq_ok {date target : Date} {days : Int}
    (reached : target.dayNumber = date.dayNumber + days) : date.addDays days = .ok target := by
  have inside : 1 ≤ date.dayNumber + days ∧ date.dayNumber + days ≤ 3652059 := by
    rw [← reached]
    exact ⟨target.one_le, target.le_last⟩
  unfold addDays ofDayNumber
  rw [dif_pos inside]
  exact congrArg Except.ok (Date.ext reached.symm)

/-- A number of days that leads out of the calendar. -/
theorem addDays_eq_error {date : Date} {days : Int}
    (outside : date.dayNumber + days < 1 ∨ 3652059 < date.dayNumber + days) :
    date.addDays days = .error .dateOutOfRange := by
  unfold addDays ofDayNumber
  exact dif_neg (by omega)

/-- Steps forward add up. -/
theorem addDays_addDays {date : Date} {first second : Int} (forward : 0 ≤ first)
    (forward' : 0 ≤ second) :
    (date.addDays first).bind (·.addDays second) = date.addDays (first + second) := by
  have begun := date.one_le
  by_cases inside : date.dayNumber + first ≤ 3652059
  · have step : date.addDays first = .ok ⟨date.dayNumber + first, by omega, inside⟩ :=
      addDays_eq_ok rfl
    rw [step]
    unfold addDays
    show ofDayNumber (date.dayNumber + first + second) = _
    rw [Int.add_assoc]
  · rw [addDays_eq_error (Or.inr (by omega)), addDays_eq_error (Or.inr (by omega))]
    rfl

/-- The Sunday of a week lies in the calendar, except for the week that begins before it. -/
theorem weekStart_eq_ok {date : Date} (begun : date.week ≠ 0) :
    ∃ sunday : Date, date.weekStart = .ok sunday ∧ sunday.dayNumber = 7 * date.week := by
  have first := date.one_le
  have last := date.le_last
  have place := date.dayNumber_eq_week
  have week : date.week = date.dayNumber / 7 := rfl
  refine ⟨⟨7 * date.week, by omega, by omega⟩, addDays_eq_ok ?_, rfl⟩
  simp only []
  omega

theorem weekStart_eq_error {date : Date} (first : date.week = 0) :
    date.weekStart = .error .dateOutOfRange := by
  have place := date.dayNumber_eq_week
  exact addDays_eq_error (Or.inl (by omega))

/-- **A walk from day to day ends at the first date on the weekday.** -/
theorem walkTo_eq_ok {weekday : Weekday} {stride : Int} (daily : stride = 1 ∨ stride = -1) :
    ∀ {offset steps : Nat} {date target : Date}, offset ≤ steps →
      target.dayNumber = date.dayNumber + stride * offset → target.weekday = weekday →
      (∀ earlier < offset, (date.dayNumber + stride * earlier) % 7 ≠ weekday.val) →
      date.walkTo weekday stride steps = .ok target := by
  intro offset
  induction offset with
  | zero =>
    intro steps date target _ reached on _
    have here : date = target := Date.ext (by omega)
    subst here
    cases steps with
    | zero => rfl
    | succ steps => exact if_pos on
  | succ offset ih =>
    intro steps date target near reached on missed
    obtain ⟨steps, rfl⟩ : ∃ fewer, steps = fewer + 1 := ⟨steps - 1, by omega⟩
    have off : date.weekday ≠ weekday := by
      rw [Ne, weekday_eq_iff]
      simpa using missed 0 (Nat.succ_pos offset)
    have begun := date.one_le
    have ended := date.le_last
    have begun' := target.one_le
    have ended' := target.le_last
    have inside : 1 ≤ date.dayNumber + stride ∧ date.dayNumber + stride ≤ 3652059 := by
      rcases daily with rfl | rfl <;> omega
    have step : date.addDays stride = .ok ⟨_, inside.1, inside.2⟩ := addDays_eq_ok rfl
    unfold walkTo
    rw [if_neg off, step]
    refine ih (Nat.le_of_succ_le_succ near) ?_ on fun earlier before => ?_
    · rw [reached]
      rcases daily with rfl | rfl <;> simp only [] <;> omega
    · have later := missed (earlier + 1) (Nat.succ_lt_succ before)
      rcases daily with rfl | rfl <;> simp only [] <;> omega

end Date

/-! ### Weekdays of a month -/

/-- The date is the first, second, third, fourth or last one of its weekday in its month: it lies
among the first seven days, the seven days after these, and so on, or among the last seven. -/
def Ordinal.Marks (ordinal : Ordinal) (date : Date) : Prop :=
  match ordinal with
  | first => date.day ≤ 7
  | second => 7 < date.day ∧ date.day ≤ 14
  | third => 14 < date.day ∧ date.day ≤ 21
  | fourth => 21 < date.day ∧ date.day ≤ 28
  | last => date.yearMonth.lastDay < date.day + 7

/-- **A month has one date only with a weekday and an ordinal.** -/
theorem Ordinal.Marks.unique {ordinal : Ordinal} {first second : Date}
    (marks : ordinal.Marks first) (marks' : ordinal.Marks second)
    (month : first.yearMonth = second.yearMonth) (weekday : first.weekday = second.weekday) :
    first = second := by
  have begun := first.one_le_day
  have begun' := second.one_le_day
  have ended := first.day_le_lastDay
  have ended' := second.day_le_lastDay
  have remainders : first.dayNumber % 7 = second.dayNumber % 7 := by
    rw [← first.weekday_val, ← second.weekday_val, weekday]
  rw [first.dayNumber_eq, second.dayNumber_eq, month] at remainders
  refine Date.ext_parts month ?_
  rw [month] at ended
  cases ordinal <;> simp only [Ordinal.Marks, month] at marks marks' <;> omega

namespace YearMonth

variable {month : YearMonth} (proper : month.IsMonth) (inside : month.IsInCalendar)
include proper inside

/-- The first date of a month on a weekday is one of the first seven days. -/
theorem firstOn_eq_ok (weekday : Weekday) :
    ∃ date : Date, month.firstOn weekday = .ok date ∧ date.yearMonth = month ∧
      date.weekday = weekday ∧ date.day ≤ 7 := by
  have long : 28 ≤ month.lastDay := le_monthLength month.year month.month
  obtain ⟨start, begun, startMonth, startDay⟩ := Date.ofCivil_eq_ok 1 proper inside.1
    inside.2 (by omega) (by omega)
  let offset : Nat := (weekday.val + 7 - start.weekday.val) % 7
  have near : offset ≤ 6 := by omega
  obtain ⟨target, found, targetMonth, targetDay⟩ := Date.ofDayNumber_eq_ok
    (1 + (offset : Int)) proper inside.1 inside.2 (by omega) (by omega)
  have placed := start.dayNumber_eq
  have reached := target.dayNumber_eq
  rw [startMonth, startDay] at placed
  rw [targetMonth, targetDay] at reached
  have remainder := start.weekday_val
  have on : target.weekday = weekday := by
    rw [Date.weekday_eq_iff]
    omega
  have walk : start.walkTo weekday 1 6 = .ok target := by
    refine Date.walkTo_eq_ok (Or.inl rfl) near (by omega) on fun earlier before => ?_
    omega
  refine ⟨target, ?_, targetMonth, on, by omega⟩
  unfold firstOn onDay
  rw [begun]
  exact walk

/-- The last date of a month on a weekday is one of the last seven days. -/
theorem lastOn_eq_ok (weekday : Weekday) :
    ∃ date : Date, month.lastOn weekday = .ok date ∧ date.yearMonth = month ∧
      date.weekday = weekday ∧ month.lastDay < date.day + 7 := by
  have long : 28 ≤ month.lastDay := le_monthLength month.year month.month
  obtain ⟨finish, ended, finishMonth, finishDay⟩ := Date.ofCivil_eq_ok month.lastDay proper
    inside.1 inside.2 (by omega) (by omega)
  let offset : Nat := (finish.weekday.val + 7 - weekday.val) % 7
  have near : offset ≤ 6 := by omega
  obtain ⟨target, found, targetMonth, targetDay⟩ := Date.ofDayNumber_eq_ok
    (month.lastDay - (offset : Int)) proper inside.1 inside.2 (by omega) (by omega)
  have placed := finish.dayNumber_eq
  have reached := target.dayNumber_eq
  rw [finishMonth, finishDay] at placed
  rw [targetMonth, targetDay] at reached
  have remainder := finish.weekday_val
  have on : target.weekday = weekday := by
    rw [Date.weekday_eq_iff]
    omega
  have walk : finish.walkTo weekday (-1) 6 = .ok target := by
    refine Date.walkTo_eq_ok (Or.inr rfl) near (by omega) on fun earlier before => ?_
    omega
  refine ⟨target, ?_, targetMonth, on, by omega⟩
  unfold lastOn onDay length
  rw [if_pos proper]
  show (Date.ofCivil month.year month.month month.lastDay).bind _ = _
  rw [ended]
  exact walk

/-- **An ordinal and a weekday give the date of the month that they mark.** -/
theorem onWeekday_eq_ok (ordinal : Ordinal) (weekday : Weekday) :
    ∃ date : Date, month.onWeekday ordinal weekday = .ok date ∧ date.yearMonth = month ∧
      date.weekday = weekday ∧ ordinal.Marks date := by
  have long : 28 ≤ month.lastDay := le_monthLength month.year month.month
  obtain ⟨first, found, firstMonth, on, early⟩ := firstOn_eq_ok proper inside weekday
  have begun := first.one_le_day
  have placed := first.dayNumber_eq
  rw [firstMonth] at placed
  have require : month.requireMonth = .ok () := if_pos proper
  -- The later ones of the month are whole weeks after the first.
  have weeksLater (weeks : Int) (few : 0 ≤ weeks ∧ weeks ≤ 3) :
      ∃ date : Date, (month.firstOn weekday).bind (·.addDays (7 * weeks)) = .ok date ∧
        date.yearMonth = month ∧ date.weekday = weekday ∧ date.day = first.day + 7 * weeks := by
    obtain ⟨date, _, dateMonth, dateDay⟩ := Date.ofDayNumber_eq_ok
      (first.day + 7 * weeks) proper inside.1 inside.2 (by omega) (by omega)
    have reached := date.dayNumber_eq
    rw [dateMonth, dateDay] at reached
    refine ⟨date, ?_, dateMonth, ?_, dateDay⟩
    · rw [found]
      exact Date.addDays_eq_ok (by omega)
    · rw [Date.weekday_eq_iff] at on ⊢
      omega
  unfold onWeekday
  rw [require]
  cases ordinal with
  | first => exact ⟨first, found, firstMonth, on, early⟩
  | second =>
    obtain ⟨date, step, dateMonth, dateOn, dateDay⟩ := weeksLater 1 (by omega)
    exact ⟨date, step, dateMonth, dateOn, by simp only [Ordinal.Marks]; omega⟩
  | third =>
    obtain ⟨date, step, dateMonth, dateOn, dateDay⟩ := weeksLater 2 (by omega)
    exact ⟨date, step, dateMonth, dateOn, by simp only [Ordinal.Marks]; omega⟩
  | fourth =>
    obtain ⟨date, step, dateMonth, dateOn, dateDay⟩ := weeksLater 3 (by omega)
    exact ⟨date, step, dateMonth, dateOn, by simp only [Ordinal.Marks]; omega⟩
  | last =>
    obtain ⟨date, found, dateMonth, dateOn, late⟩ := lastOn_eq_ok proper inside weekday
    refine ⟨date, found, dateMonth, dateOn, ?_⟩
    simp only [Ordinal.Marks, dateMonth]
    exact late

end YearMonth

end Recurrence
