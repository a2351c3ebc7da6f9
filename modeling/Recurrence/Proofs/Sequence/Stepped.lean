/-
**The dates of daily and yearly rules.**

The date number `k` of a daily rule lies `k` intervals of days after the start. The date number `k`
of a yearly rule lies `k` intervals of years after the start, on the start's day of the year. Only a
29 February is the 28th in years that have none, and the 29th again in later leap years, since every
date is counted from the start.

* `Rule.IsDayAfter`, `Rule.IsAnniversary`: the date with a number;
* `Rule.isNumberedBy_daily`, `Rule.isNumberedBy_yearly`: going on leads from number to number;
* `Rule.dates_stepped`: the dates under a bound.
-/
import Recurrence.Proofs.Sequence.Numbered
import Recurrence.Proofs.Sequence.Outcome

namespace Recurrence

/-- A 29 February, which only leap years have. -/
def Date.IsLeapDay (date : Date) : Prop := date.month = 2 ∧ date.day = 29

instance (date : Date) : Decidable date.IsLeapDay := inferInstanceAs (Decidable (_ ∧ _))

/-- **A day of the year is there in every year,** but a 29 February is the 28th where it is
missing. -/
theorem Date.min_day_monthLength (date : Date) (year : Int) :
    min date.day (monthLength year date.month) =
      if date.IsLeapDay ∧ ¬ IsLeapYear year then 28 else date.day := by
  have upTo := date.day_le_monthLength
  unfold Date.IsLeapDay
  unfold monthLength at upTo ⊢
  by_cases february : date.month = 2
  · simp only [if_pos february] at upTo ⊢
    by_cases leap : IsLeapYear year
    · simp only [leap, not_true, and_false, if_true, if_false]
      split at upTo <;> omega
    · simp only [leap, not_false_iff, and_true, if_false, february, true_and]
      split at upTo <;> split <;> omega
  · have missing : ¬ ((date.month = 2 ∧ date.day = 29) ∧ ¬ IsLeapYear year) :=
      fun leapDay => february leapDay.1.1
    rw [if_neg february] at upTo ⊢
    rw [if_neg missing]
    exact Int.min_eq_left upTo

namespace Rule

variable {rule : Rule}

/-! ### Days after the start -/

/-- The date lies so many intervals of days after the start. -/
def IsDayAfter (rule : Rule) (number : Nat) (date : Date) : Prop :=
  date.dayNumber = rule.startDate.dayNumber + number * rule.interval

/-- The calendar ends before the day that lies so many intervals after the start. -/
def IsDayPastCalendar (rule : Rule) (number : Nat) : Prop :=
  3652059 < rule.startDate.dayNumber + number * rule.interval

theorem exists_isDayAfter {number : Nat} :
    (∃ date, rule.IsDayAfter number date) ↔ ¬ rule.IsDayPastCalendar number := by
  have begun := rule.startDate.one_le
  have onward := rule.mul_interval_nonneg number
  unfold IsDayAfter IsDayPastCalendar
  constructor
  · rintro ⟨date, placed⟩
    have last := date.le_last
    omega
  · intro inside
    exact ⟨⟨rule.startDate.dayNumber + number * rule.interval, by omega, by omega⟩, rfl⟩

theorem next_daily (daily : rule.pattern = .daily) (current : Date) (step : Int) :
    rule.next current step = current.addDays rule.interval := by
  unfold next
  rw [daily]

/-- **A daily rule goes on from number to number.** -/
theorem isNumberedBy_daily (daily : rule.pattern = .daily) :
    rule.IsNumberedBy rule.IsDayAfter where
  start := by simp [IsDayAfter]
  unique here here' := Date.ext (here.trans here'.symm)
  goesOn {number current} here := by
    have positive := rule.one_le_interval
    have begun := current.one_le
    have further := rule.succ_mul_interval number
    unfold IsDayAfter at here
    rw [next_daily daily]
    by_cases inside : current.dayNumber + rule.interval ≤ 3652059
    · let next : Date := ⟨current.dayNumber + rule.interval, by omega, inside⟩
      refine Or.inl ⟨next, Date.addDays_eq_ok rfl, Date.lt_def.mpr ?_, ?_⟩
      · simp only [next]
        omega
      · simp only [IsDayAfter, next]
        omega
    · refine Or.inr ⟨⟨_, Date.addDays_eq_error (Or.inr (by omega))⟩, ?_⟩
      intro later after date there
      have far := rule.mul_interval_le (show number + 1 ≤ later from after)
      have last := date.le_last
      unfold IsDayAfter at there
      omega

/-! ### Anniversaries of the start -/

/-- The date lies so many intervals of years after the start, on the start's day of the year; a
29 February is the 28th in years that have none. -/
def IsAnniversary (rule : Rule) (number : Nat) (date : Date) : Prop :=
  date.year = rule.startDate.year + number * rule.interval ∧ date.month = rule.startDate.month ∧
    date.day = if rule.startDate.IsLeapDay ∧ ¬ IsLeapYear date.year then 28 else rule.startDate.day

/-- The calendar ends before the year that lies so many intervals after the start's. -/
def IsYearPastCalendar (rule : Rule) (number : Nat) : Prop :=
  9999 < rule.startDate.year + number * rule.interval

theorem isAnniversary_iff {number : Nat} {date : Date} :
    rule.IsAnniversary number date ↔ date.yearMonth = rule.anniversaryMonth number ∧
      date.day = min rule.startDate.day (rule.anniversaryMonth number).lastDay := by
  have day := rule.startDate.min_day_monthLength (rule.anniversaryMonth number).year
  unfold IsAnniversary YearMonth.lastDay
  constructor
  · rintro ⟨year, month, number⟩
    refine ⟨YearMonth.ext year month, ?_⟩
    rw [number, year]
    exact day.symm
  · rintro ⟨same, number⟩
    have year := congrArg YearMonth.year same
    refine ⟨year, congrArg YearMonth.month same, ?_⟩
    rw [number, show date.year = _ from year]
    exact day

theorem index_anniversaryMonth (rule : Rule) (step : Int) :
    (rule.anniversaryMonth step).index =
      rule.startDate.yearMonth.index + 12 * (step * rule.interval) := by
  simp only [anniversaryMonth, YearMonth.index, Date.yearMonth]
  omega

/-- The anniversaries up to the last year of the calendar lie in it. -/
theorem isInCalendar_anniversaryMonth_iff (number : Nat) :
    (rule.anniversaryMonth number).IsInCalendar ↔ ¬ rule.IsYearPastCalendar number := by
  have begun := rule.startDate.one_le_year
  have onward := rule.mul_interval_nonneg number
  simp only [YearMonth.IsInCalendar, IsYearPastCalendar, anniversaryMonth]
  omega

theorem exists_isAnniversary {number : Nat} :
    (∃ date, rule.IsAnniversary number date) ↔ ¬ rule.IsYearPastCalendar number := by
  rw [← isInCalendar_anniversaryMonth_iff]
  constructor
  · rintro ⟨date, here⟩
    rw [← (isAnniversary_iff.mp here).1]
    exact YearMonth.isInCalendar_yearMonth date
  · intro inside
    obtain ⟨date, _, found⟩ := YearMonth.onDayOrLast_eq_ok (rule.isMonth_anniversaryMonth number)
      inside rule.startDate.one_le_day
    exact ⟨date, isAnniversary_iff.mpr found⟩

theorem isAnniversary_start (rule : Rule) : rule.IsAnniversary 0 rule.startDate := by
  have zero : ((0 : Nat) : Int) * rule.interval = 0 := Int.zero_mul _
  have day := rule.startDate.min_day_monthLength rule.startDate.year
  rw [Int.min_eq_left rule.startDate.day_le_monthLength] at day
  unfold IsAnniversary
  rw [zero, Int.add_zero]
  exact ⟨rfl, rfl, day⟩

/-- Later anniversaries are later. -/
theorem IsAnniversary.lt {earlier later : Nat} {first second : Date}
    (here : rule.IsAnniversary earlier first) (there : rule.IsAnniversary later second)
    (order : earlier < later) : first < second := by
  have positive := rule.one_le_interval
  have further := rule.succ_mul_interval earlier
  have far := rule.mul_interval_le (show earlier + 1 ≤ later from order)
  refine Date.lt_of_index_lt ?_
  rw [(isAnniversary_iff.mp here).1, (isAnniversary_iff.mp there).1, index_anniversaryMonth,
    index_anniversaryMonth]
  omega

/-- **A yearly rule goes on from number to number.** -/
theorem isNumberedBy_yearly (yearly : rule.pattern = .yearly) :
    rule.IsNumberedBy rule.IsAnniversary where
  start := rule.isAnniversary_start
  unique here here' := by
    obtain ⟨month, day⟩ := isAnniversary_iff.mp here
    obtain ⟨month', day'⟩ := isAnniversary_iff.mp here'
    exact Date.ext_parts (month.trans month'.symm) (day.trans day'.symm)
  goesOn {number current} here := by
    by_cases past : rule.IsYearPastCalendar (number + 1)
    · have outside := fun inside => (isInCalendar_anniversaryMonth_iff (number + 1)).mp inside past
      refine Or.inr ⟨⟨_, next_yearly_error yearly current outside⟩, ?_⟩
      intro later after date there
      have far := rule.mul_interval_le (show number + 1 ≤ later from after)
      have inside := exists_isAnniversary.mp ⟨date, there⟩
      unfold IsYearPastCalendar at past inside
      omega
    · have inside := (isInCalendar_anniversaryMonth_iff (number + 1)).mpr past
      obtain ⟨next, found, parts⟩ := next_yearly_ok yearly current inside
      have there : rule.IsAnniversary (number + 1) next := isAnniversary_iff.mpr parts
      exact Or.inl ⟨next, found, here.lt there (Nat.lt_succ_self number), there⟩

/-! ### The dates under a bound -/

/-- **The date number `k` of a daily rule lies `k` intervals of days after the start, that of a
yearly rule `k` intervals of years after it,** on the start's day of the year if the year has it.
The dates stop where the count is reached, the next one is past an end, or it would be after the
calendar. Of a yearly rule there are none where the first year after the start cannot be
reported. -/
theorem dates_stepped {maxCount : CountLimit} {hardEnd : Option Date}
    (bounded : rule.IsBounded maxCount hardEnd) :
    (rule.pattern = .daily →
      ∃ dates, rule.dates (.dated maxCount hardEnd) = .ok dates ∧
        rule.AreNumbered rule.IsDayAfter rule.IsDayPastCalendar maxCount hardEnd dates) ∧
    (rule.pattern = .yearly →
      if rule.IsUnreportable maxCount hardEnd then
        rule.dates (.dated maxCount hardEnd) = .error (.calendar .unwritable)
      else
        ∃ dates, rule.dates (.dated maxCount hardEnd) = .ok dates ∧
          rule.AreNumbered rule.IsAnniversary rule.IsYearPastCalendar maxCount hardEnd dates) := by
  rw [dates_eq bounded]
  constructor
  · intro daily
    rw [if_neg (not_isUnreportable_of_daily_or_weekly (Or.inl daily) maxCount hardEnd)]
    exact ⟨_, rfl, (isNumberedBy_daily daily).areNumbered_selection (fun _ => exists_isDayAfter)
      maxCount hardEnd⟩
  · intro yearly
    by_cases unreportable : rule.IsUnreportable maxCount hardEnd
    · rw [if_pos unreportable, if_pos unreportable]
    · rw [if_neg unreportable, if_neg unreportable]
      exact ⟨_, rfl, (isNumberedBy_yearly yearly).areNumbered_selection
        (fun _ => exists_isAnniversary) maxCount hardEnd⟩

/-- Every hundredth year from the 29 February 2000 on. -/
def everyCentury : Rule where
  pattern := .yearly
  interval := 100
  startDate := ⟨730179, by decide, by decide⟩
  endDate := none
  one_le_interval := by decide
  start_le_end := nofun

/-- Every hundredth day from the 29 February 2000 on. -/
def everyHundredDays : Rule := { everyCentury with pattern := .daily }

/-- The years 2100, 2200 and 2300 have no 29 February, the year 2400 has one again. -/
theorem dates_stepped_everyCentury :
    everyHundredDays.pattern = .daily ∧ everyHundredDays.IsBounded (.whole 5 (by decide)) none ∧
      everyCentury.pattern = .yearly ∧ everyCentury.IsBounded (.whole 5 (by decide)) none ∧
      everyCentury.startDate.IsLeapDay ∧
      (∃ dates, everyHundredDays.dates (.dated (.whole 5 (by decide)) none) = .ok dates ∧
        everyHundredDays.AreNumbered everyHundredDays.IsDayAfter everyHundredDays.IsDayPastCalendar
          (.whole 5 (by decide)) none dates) ∧
      ∃ dates, everyCentury.dates (.dated (.whole 5 (by decide)) none) = .ok dates ∧
        everyCentury.AreNumbered everyCentury.IsAnniversary everyCentury.IsYearPastCalendar
          (.whole 5 (by decide)) none dates := by
  have boundedDay : everyHundredDays.IsBounded (.whole 5 (by decide)) none := isBounded_whole ..
  have boundedYear : everyCentury.IsBounded (.whole 5 (by decide)) none := isBounded_whole ..
  have reportable : ¬ everyCentury.IsUnreportable (.whole 5 (by decide)) none :=
    fun unreportable => unreportable.2.2 (isWritable_of_fits64 (by decide))
  obtain ⟨daily, _⟩ := dates_stepped boundedDay
  obtain ⟨_, yearly⟩ := dates_stepped boundedYear
  simp only [if_neg reportable] at yearly
  exact ⟨rfl, boundedDay, rfl, boundedYear, by decide, daily rfl, yearly rfl⟩

/-- Of a yearly rule with an interval of 4300 digits the start is not had as the only date, although
its first anniversary is after the calendar. -/
theorem dates_distant_anniversaries :
    distant.pattern = .yearly ∧ distant.IsBounded (.whole 2 (by decide)) none ∧
      distant.IsYearPastCalendar 1 ∧
      distant.dates (.dated (.whole 2 (by decide)) none) = .error (.calendar .unwritable) ∧
      ¬ ∃ dates, distant.dates (.dated (.whole 2 (by decide)) none) = .ok dates ∧
        distant.AreNumbered distant.IsAnniversary distant.IsYearPastCalendar
          (.whole 2 (by decide)) none dates := by
  have bounded : distant.IsBounded (.whole 2 (by decide)) none := isBounded_whole ..
  have failed : distant.dates (.dated (.whole 2 (by decide)) none) =
      .error (.calendar .unwritable) := by
    rw [dates_eq bounded, if_pos isUnreportable_distant]
  have past : distant.IsYearPastCalendar 1 := by
    have begun := distant.startDate.one_le_year
    have large := word_le_pow_maxDigits
    have length : distant.interval = (Nat.pow 10 maxDigits : Int) - 1 := rfl
    unfold IsYearPastCalendar
    rw [length]
    omega
  refine ⟨rfl, bounded, past, failed, ?_⟩
  rintro ⟨dates, produced, _⟩
  cases failed.symm.trans produced

end Rule

end Recurrence
