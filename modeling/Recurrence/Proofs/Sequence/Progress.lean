/-
**Every rule goes on to a later date.**

From each date that a rule comes to it goes on to a later one until the calendar ends, however long
its interval is. A yearly rule does so because it is at the anniversary before; and what lies past
the end of the calendar is reported as such as long as the year in question can be written, which
only the first year after the start can fail (`Rule.next_unwritable`).

* `Rule.OnCourse`: what holds at every date that a rule comes to;
* `Rule.OnCourse.advance`: the next date is later, and the rule stays on course.
-/
import Recurrence.Proofs.Sequence.Advance

namespace Recurrence

namespace Date

theorem isWritable_year (date : Date) : IsWritable date.year := by
  have lower := date.one_le_year
  have upper := date.year_le
  exact isWritable_of_fits64 ⟨by omega, by omega⟩

/-- The index of a date's month lies in the years of the calendar. -/
theorem index_yearMonth_bounds (date : Date) :
    12 ≤ date.yearMonth.index ∧ date.yearMonth.index ≤ 119999 := by
  have lower := date.one_le_year
  have upper := date.year_le
  have january := date.one_le_month
  have december := date.month_le
  unfold YearMonth.index yearMonth
  simp only []
  omega

end Date

namespace YearMonth

theorem outsideCause_isOverflow {month : YearMonth} (writable : IsWritable month.year) :
    month.outsideCause.isOverflow = true := by
  show (if IsWritable month.year then CalendarError.yearOutsideCalendar month.year
    else .unwritable).isOverflow = true
  rw [if_pos writable]
  rfl

theorem outsideCause_unwritable {month : YearMonth} (unwritable : ¬ IsWritable month.year) :
    month.outsideCause = .unwritable :=
  if_neg unwritable

theorem isWritable_of_isInCalendar {month : YearMonth} (inside : month.IsInCalendar) :
    IsWritable month.year := by
  obtain ⟨lower, upper⟩ := inside
  exact isWritable_of_fits64 ⟨by omega, by omega⟩

end YearMonth

namespace Rule

/-! ### The year that is looked for -/

/-- The year that the next date is looked for in, where the pattern asks for one. -/
def soughtYear (rule : Rule) (current : Date) (step : Int) : Int :=
  match rule.pattern with
  | .daily | .weekly _ => current.year
  | .monthlyByDay _ | .monthlyByWeekday .. => (current.yearMonth.shift rule.interval).year
  | .yearly => (rule.anniversaryMonth step).year

theorem soughtYear_monthly {rule : Rule} (monthly : rule.IsMonthly) (current : Date)
    (step : Int) :
    rule.soughtYear current step = (current.yearMonth.shift rule.interval).year := by
  unfold soughtYear
  rcases isMonthly_iff.mp monthly with ⟨_, shape⟩ | ⟨_, _, shape⟩ <;> rw [shape]

theorem soughtYear_yearly {rule : Rule} (yearly : rule.pattern = .yearly) (current : Date)
    (step : Int) : rule.soughtYear current step = (rule.anniversaryMonth step).year := by
  unfold soughtYear
  rw [yearly]

/-- The rules are the daily, the weekly, the monthly and the yearly ones. -/
theorem daily_or_weekly_or_monthly_or_yearly (rule : Rule) :
    rule.pattern = .daily ∨ (∃ weekdays, rule.pattern = .weekly weekdays) ∨ rule.IsMonthly ∨
      rule.pattern = .yearly := by
  rw [isMonthly_iff]
  cases rule.pattern with
  | daily => exact Or.inl rfl
  | weekly weekdays => exact Or.inr (Or.inl ⟨weekdays, rfl⟩)
  | monthlyByDay day => exact Or.inr (Or.inr (Or.inl (Or.inl ⟨day, rfl⟩)))
  | monthlyByWeekday ordinal weekday =>
    exact Or.inr (Or.inr (Or.inl (Or.inr ⟨ordinal, weekday, rfl⟩)))
  | yearly => exact Or.inr (Or.inr (Or.inr rfl))

theorem not_isMonthly_of_yearly {rule : Rule} (yearly : rule.pattern = .yearly) :
    ¬ rule.IsMonthly := by
  unfold IsMonthly Rule.kind
  rw [yearly]
  exact fun either => either.elim nofun nofun

/-- **A year that cannot be written is not reported as the end of the calendar.** -/
theorem next_unwritable {rule : Rule} {current : Date} {step : Int}
    (unwritable : ¬ IsWritable (rule.soughtYear current step)) :
    rule.next current step = .error .unwritable := by
  rcases rule.daily_or_weekly_or_monthly_or_yearly with
    daily | ⟨weekdays, weekly⟩ | monthly | yearly
  · unfold soughtYear at unwritable
    rw [daily] at unwritable
    exact absurd current.isWritable_year unwritable
  · unfold soughtYear at unwritable
    rw [weekly] at unwritable
    exact absurd current.isWritable_year unwritable
  · rw [soughtYear_monthly monthly] at unwritable
    have outside := fun inside => unwritable (YearMonth.isWritable_of_isInCalendar inside)
    rw [next_monthly_error monthly step outside, YearMonth.outsideCause_unwritable unwritable]
  · rw [soughtYear_yearly yearly] at unwritable
    have outside := fun inside => unwritable (YearMonth.isWritable_of_isInCalendar inside)
    rw [next_yearly_error yearly current outside, YearMonth.outsideCause_unwritable unwritable]

/-! ### Staying on course -/

/-- What holds at the date with a number, counted from one, that a rule comes to: a yearly rule is
at the anniversary with that number, and the next year in question can be written. -/
structure OnCourse (rule : Rule) (step : Nat) (current : Date) : Prop where
  anniversary : rule.pattern = .yearly →
    current.year = rule.startDate.year + ((step : Int) - 1) * rule.interval
  writable : IsWritable (rule.soughtYear current step)

theorem onCourse_start {rule : Rule}
    (writable : IsWritable (rule.soughtYear rule.startDate 1)) :
    rule.OnCourse 1 rule.startDate where
  anniversary _ := by simp
  writable := writable

/-- What a rule on course does next: it goes on to a later date and stays on course, or the calendar
ends. -/
inductive Advance (rule : Rule) (step : Nat) (current : Date) : Except CalendarError Date → Prop
  | later {next : Date} (after : current < next) (onCourse : rule.OnCourse (step + 1) next) :
    Advance rule step current (.ok next)
  | calendarEnd {cause : CalendarError} (overflow : cause.isOverflow = true) :
    Advance rule step current (.error cause)

variable {rule : Rule} {step : Nat} {current : Date}

theorem advance_daily (daily : rule.pattern = .daily) :
    rule.Advance step current (rule.next current step) := by
  have positive := rule.one_le_interval
  have begun := current.one_le
  have shape : rule.next current step = current.addDays rule.interval := by
    unfold next
    rw [daily]
  rw [shape]
  by_cases inside : current.dayNumber + rule.interval ≤ 3652059
  · let next : Date := ⟨current.dayNumber + rule.interval, by omega, inside⟩
    have found : current.addDays rule.interval = .ok next := Date.addDays_eq_ok rfl
    rw [found]
    refine .later (Date.lt_def.mpr ?_) ⟨fun yearly => ?_, ?_⟩
    · simp only [next]
      omega
    · rw [daily] at yearly
      cases yearly
    · unfold soughtYear
      rw [daily]
      exact next.isWritable_year
  · rw [Date.addDays_eq_error (Or.inr (by omega))]
    exact .calendarEnd rfl

theorem advance_weekly {weekdays : WeekdaySet} (weekly : rule.pattern = .weekly weekdays) :
    rule.Advance step current (rule.next current step) := by
  have shape : rule.next current step = weekdays.next rule.interval current := by
    unfold next
    rw [weekly]
  rw [shape]
  rcases weekdays.next_spec rule.one_le_interval current with
    ⟨next, found, later, _⟩ | ⟨ended, _⟩
  · rw [found]
    refine .later later ⟨fun yearly => ?_, ?_⟩
    · rw [weekly] at yearly
      cases yearly
    · unfold soughtYear
      rw [weekly]
      exact next.isWritable_year
  · rw [ended]
    exact .calendarEnd rfl

theorem advance_monthly (monthly : rule.IsMonthly) (onCourse : rule.OnCourse step current) :
    rule.Advance step current (rule.next current step) := by
  have positive := rule.one_le_interval
  by_cases inside : (current.yearMonth.shift rule.interval).IsInCalendar
  · obtain ⟨next, found, picks⟩ := next_monthly_ok monthly step inside
    have index : next.yearMonth.index = current.yearMonth.index + rule.interval := by
      rw [picks.yearMonth_eq, YearMonth.index_shift]
    have bounds := current.index_yearMonth_bounds
    have bounds' := next.index_yearMonth_bounds
    rw [found]
    refine .later (picks.after positive) ⟨fun yearly => ?_, ?_⟩
    · exact absurd monthly (not_isMonthly_of_yearly yearly)
    · rw [soughtYear_monthly monthly]
      -- The interval is no longer than the calendar, since it did not lead out of it.
      refine isWritable_of_fits64 ⟨?_, ?_⟩ <;> simp only [YearMonth.shift, YearMonth.ofIndex] <;> omega
  · rw [next_monthly_error monthly step inside]
    have writable := onCourse.writable
    rw [soughtYear_monthly monthly] at writable
    exact .calendarEnd (YearMonth.outsideCause_isOverflow writable)

theorem advance_yearly (yearly : rule.pattern = .yearly) (positive : 1 ≤ step)
    (onCourse : rule.OnCourse step current) :
    rule.Advance step current (rule.next current step) := by
  have interval := rule.one_le_interval
  by_cases inside : (rule.anniversaryMonth step).IsInCalendar
  · obtain ⟨next, found, month, _⟩ := next_yearly_ok yearly current inside
    have year : next.year = rule.startDate.year + step * rule.interval :=
      congrArg YearMonth.year month
    have before := onCourse.anniversary yearly
    have product : ((step : Int) - 1) * rule.interval = step * rule.interval - rule.interval := by
      rw [Int.sub_mul, Int.one_mul]
    have nonneg : 0 ≤ ((step : Int) - 1) * rule.interval :=
      Int.mul_nonneg (by omega) (by omega)
    have begun := rule.startDate.one_le_year
    have ended := next.year_le
    rw [found]
    refine .later (Date.lt_of_index_lt ?_) ⟨fun _ => ?_, ?_⟩
    · have january := next.one_le_month
      have december := current.month_le
      simp only [YearMonth.index, Date.yearMonth]
      omega
    · rw [year, Int.natCast_add, Int.natCast_one, Int.add_sub_cancel]
    · have sought : rule.soughtYear next ((step + 1 : Nat) : Int) = next.year + rule.interval := by
        rw [soughtYear_yearly yearly, year]
        simp only [anniversaryMonth, Int.natCast_add, Int.natCast_one, Int.add_mul, Int.one_mul,
          Int.add_assoc]
      rw [sought]
      exact isWritable_of_fits64 ⟨by omega, by omega⟩
  · rw [next_yearly_error yearly current inside]
    have writable := onCourse.writable
    rw [soughtYear_yearly yearly] at writable
    exact .calendarEnd (YearMonth.outsideCause_isOverflow writable)

/-- **A rule on course goes on to a later date and stays on course, or the calendar ends.** -/
theorem OnCourse.advance (onCourse : rule.OnCourse step current) (positive : 1 ≤ step) :
    rule.Advance step current (rule.next current step) := by
  rcases rule.daily_or_weekly_or_monthly_or_yearly with
    daily | ⟨weekdays, weekly⟩ | monthly | yearly
  · exact advance_daily daily
  · exact advance_weekly weekly
  · exact advance_monthly monthly onCourse
  · exact advance_yearly yearly positive onCourse

end Rule

end Recurrence
