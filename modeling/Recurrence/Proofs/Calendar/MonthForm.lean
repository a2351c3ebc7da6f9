/-
**Months on forms that are months of the calendar.**

A year and a month that stand on a form as numbers in their ranges are looked at as the month that
they are.

* `MonthForm.onWeekday_toForm`: the date with a place and a weekday is that of the month.
-/
import Recurrence.MonthForm
import Recurrence.Proofs.Calendar.Weekdays
import Recurrence.Proofs.Rule.Checks

namespace Recurrence.MonthForm

/-- A number from 1 up to a greatest one is let pass. -/
theorem requireRange_int {greatest number : Int} (lower : 1 ≤ number) (upper : number ≤ greatest)
    (refused : Number → CalendarError) : requireRange greatest refused (.int number) = .ok () := by
  have within : ¬ ((Number.int number).less (.int 1) = true ∨
      (Number.int greatest).less (.int number) = true ∨
      (Number.int number).isNotANumber = true) := by
    simp only [Number.less_int, decide_eq_true_eq, Number.isNotANumber, Bool.false_eq_true,
      or_false]
    omega
  exact if_neg within

/-- A number outside the range is refused. -/
theorem requireRange_int_error {greatest number : Int}
    (outside : ¬ (1 ≤ number ∧ number ≤ greatest)) (refused : Number → CalendarError) :
    requireRange greatest refused (.int number) = .error (.calendar (refused number)) := by
  have beyond : (Number.int number).less (.int 1) = true ∨
      (Number.int greatest).less (.int number) = true ∨
      (Number.int number).isNotANumber = true := by
    simp only [Number.less_int, decide_eq_true_eq]
    omega
  exact if_pos beyond

theorem word_int {number : Int} (fits : Fits32 number) : word (.int number) = .ok number := by
  have narrow : Date.fitWord number = .ok () := if_pos fits
  have whole : (Value.int number).asWhole = .ok number := rfl
  unfold word
  rw [whole]
  simp only [mapError_ok, narrow, bind, Except.bind, pure, Except.pure]

variable {month : YearMonth} (proper : month.IsMonth)
include proper

theorem length_toForm : month.toForm.length = .ok month.lastDay := by
  obtain ⟨_, ordered⟩ : ∃ holds, Value.compare .atMost (.int 1) month.toForm.year = .ok holds :=
    ⟨_, rfl⟩
  have length : month.length = .ok month.lastDay := if_pos proper
  have whole : month.toForm.whole = .ok month := by
    unfold whole
    rw [ordered]
    rfl
  have range : requireRange 12 .noMonthLength month.toForm.month = .ok () :=
    requireRange_int proper.1 proper.2 _
  unfold MonthForm.length
  simp only [range, whole, length, mapError_ok, bind, Except.bind]

variable (inside : month.IsInCalendar)
include inside

theorem onDay_toForm {day : Int} (first : 1 ≤ day) (last : day ≤ month.lastDay) :
    ∃ date, month.toForm.onDay (.int day) = .ok date ∧ date.yearMonth = month := by
  obtain ⟨january, december⟩ := proper
  obtain ⟨lower, upper⟩ := inside
  have short : month.lastDay ≤ 31 := monthLength_le month.year month.month
  have wordYear : word month.toForm.year = .ok month.year := word_int ⟨by omega, by omega⟩
  have wordMonth : word month.toForm.month = .ok month.month := word_int ⟨by omega, by omega⟩
  have wordDay : word (.int day) = .ok day := word_int ⟨by omega, by omega⟩
  obtain ⟨date, found, months, _⟩ :=
    Date.ofCivil_eq_ok day ⟨january, december⟩ lower upper first last
  refine ⟨date, ?_, months⟩
  unfold onDay
  simp only [wordYear, wordMonth, wordDay, found, mapError_ok, bind, Except.bind]

/-- **A place and a weekday on a form mark the date that they mark in the month.** -/
theorem onWeekday_toForm (ordinal weekday : Value) :
    month.toForm.onWeekday ordinal weekday = (do
      let ordinal ← ordinal.asOrdinal.mapError .rule
      let weekday ← (weekday.asWeekday (.ofField .monthWeekDay)).mapError .rule
      (month.onWeekday ordinal weekday).mapError .calendar) := by
  have long : 28 ≤ month.lastDay := le_monthLength month.year month.month
  have range : month.toForm.requireMonth = .ok () := requireRange_int proper.1 proper.2 _
  obtain ⟨start, begun, startMonth⟩ := onDay_toForm proper inside Int.one_pos (by omega)
  obtain ⟨finish, ended, finishMonth⟩ :=
    onDay_toForm proper inside (by omega : 1 ≤ month.lastDay) (Int.le_refl _)
  unfold onWeekday
  refine bind_congr fun ordinal => bind_congr fun weekday => ?_
  simp only [range, length_toForm proper, bind, Except.bind]
  split
  · rw [ended]
    simp only [finishMonth]
  · rw [begun]
    simp only [startMonth]

end Recurrence.MonthForm
