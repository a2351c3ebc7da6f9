/-
**The dates of a monthly rule.**

The date number `k` of a monthly rule lies `k` intervals of months after the start. Going on from
date to date keeps to this although the next month is counted from the last date, since only the
month of that date matters: a clamped day or a moving weekday shifts no later month.

* `Rule.IsMonthlyDate`: the date with a number;
* `Rule.isNumberedBy_monthly`: going on leads from number to number;
* `Rule.dates_monthly`: so the dates under a bound are these, and they stop where the count is
  reached, the next date is past an end, or its year is past the calendar;
* `Rule.dates_distantMonths`: unless the year after the start cannot be reported.
-/
import Recurrence.Proofs.Sequence.Numbered
import Recurrence.Proofs.Sequence.Outcome

namespace Recurrence

namespace Rule

variable {rule : Rule}

/-! ### The month a number of intervals later -/

/-- The month a number of intervals after the start's. -/
def monthAfter (rule : Rule) (index : Nat) : YearMonth :=
  rule.startDate.yearMonth.shift (index * rule.interval)

/-- The date is the one with the number: the start is number 0, and the others are picked out of the
month so many intervals later. -/
def IsMonthlyDate (rule : Rule) (index : Nat) (date : Date) : Prop :=
  if index = 0 then date = rule.startDate else rule.pattern.Picks (rule.monthAfter index) date

theorem IsMonthlyDate.unique {index : Nat} {first second : Date}
    (isDate : rule.IsMonthlyDate index first) (isDate' : rule.IsMonthlyDate index second) :
    first = second := by
  unfold IsMonthlyDate at isDate isDate'
  by_cases start : index = 0
  · rw [if_pos start] at isDate isDate'
    rw [isDate, isDate']
  · rw [if_neg start] at isDate isDate'
    exact isDate.unique isDate'

/-- A monthly pattern picks a date out of every month of the calendar. -/
theorem exists_picks (monthly : rule.IsMonthly) {month : YearMonth} (proper : month.IsMonth)
    (inside : month.IsInCalendar) : ∃ date, rule.pattern.Picks month date := by
  rcases isMonthly_iff.mp monthly with ⟨day, shape⟩ | ⟨ordinal, weekday, shape⟩
  · obtain ⟨date, _, picks⟩ := YearMonth.onDayOrLast_eq_ok proper inside day.one_le
    rw [shape]
    exact ⟨date, picks⟩
  · obtain ⟨date, _, picks⟩ := YearMonth.onWeekday_eq_ok proper inside ordinal weekday
    rw [shape]
    exact ⟨date, picks⟩

/-- There is a date with a number exactly up to the last year of the calendar. -/
theorem exists_isMonthlyDate (monthly : rule.IsMonthly) {index : Nat} :
    (∃ date, rule.IsMonthlyDate index date) ↔ (rule.monthAfter index).year ≤ 9999 := by
  have bounds := rule.startDate.index_yearMonth_bounds
  have positive := rule.one_le_interval
  have onward : 0 ≤ (index : Int) * rule.interval := Int.mul_nonneg (by omega) (by omega)
  have year : (rule.monthAfter index).year =
      (rule.startDate.yearMonth.index + index * rule.interval) / 12 := rfl
  by_cases start : index = 0
  · have none : (index : Int) * rule.interval = 0 := by
      rw [start]
      exact Int.zero_mul rule.interval
    simp only [IsMonthlyDate, if_pos start, exists_eq, true_iff]
    omega
  · simp only [IsMonthlyDate, if_neg start]
    constructor
    · rintro ⟨date, picks⟩
      rw [← picks.yearMonth_eq]
      exact date.year_le
    · intro last
      have first : 1 ≤ (rule.monthAfter index).year := by omega
      exact exists_picks monthly (YearMonth.isMonth_shift _ _) ⟨first, last⟩

/-! ### Going on month by month -/

theorem IsMonthlyDate.yearMonth_eq {index : Nat} {date : Date}
    (isDate : rule.IsMonthlyDate index date) : date.yearMonth = rule.monthAfter index := by
  unfold IsMonthlyDate at isDate
  by_cases start : index = 0
  · rw [if_pos start] at isDate
    have none : (index : Int) * rule.interval = 0 := by
      rw [start]
      exact Int.zero_mul rule.interval
    unfold monthAfter
    rw [none, YearMonth.shift_zero (YearMonth.isMonth_yearMonth _), isDate]
  · rw [if_neg start] at isDate
    exact isDate.yearMonth_eq

/-- An interval after the month with a number comes the month with the next one. -/
theorem shift_monthAfter (rule : Rule) (index : Nat) :
    (rule.monthAfter index).shift rule.interval = rule.monthAfter (index + 1) := by
  unfold monthAfter
  rw [YearMonth.shift_shift, succ_mul_interval]

/-- **A monthly rule goes on from number to number.** -/
theorem isNumberedBy_monthly (monthly : rule.IsMonthly) :
    rule.IsNumberedBy rule.IsMonthlyDate where
  start := by simp only [IsMonthlyDate, if_true]
  unique := IsMonthlyDate.unique
  goesOn {number current} here := by
    have month : current.yearMonth.shift rule.interval = rule.monthAfter (number + 1) := by
      rw [here.yearMonth_eq, shift_monthAfter]
    by_cases inside : (current.yearMonth.shift rule.interval).IsInCalendar
    · obtain ⟨next, found, picks⟩ := next_monthly_ok monthly ((number + 1 : Nat) : Int) inside
      refine Or.inl ⟨next, found, picks.after rule.one_le_interval, ?_⟩
      unfold IsMonthlyDate
      rw [if_neg (Nat.succ_ne_zero number), ← month]
      exact picks
    · refine Or.inr ⟨⟨_, next_monthly_error monthly _ inside⟩, fun later after date there => ?_⟩
      have last := (exists_isMonthlyDate monthly).mp ⟨date, there⟩
      have far := rule.mul_interval_le (show number + 1 ≤ later from after)
      have onward := rule.mul_interval_nonneg (number + 1)
      have bounds := rule.startDate.index_yearMonth_bounds
      rw [month] at inside
      simp only [YearMonth.IsInCalendar, monthAfter, YearMonth.shift, YearMonth.ofIndex]
        at inside last
      omega

/-! ### The dates under a bound -/

/-- The dates are those with the numbers from 0 on, and stop at the first number for which the count
is reached already, the date is past an end, or its year is past the calendar. -/
structure AreMonthlyDates (rule : Rule) (maxCount : CountLimit) (hardEnd : Option Date)
    (dates : List Date) : Prop where
  isDate : ∀ (index : Nat) (date : Date), dates[index]? = some date → rule.IsMonthlyDate index date
  stopped : ∀ index : Nat, dates.length ≤ index ↔
    ¬ maxCount.Admits (index + 1) ∨ 9999 < (rule.monthAfter index).year ∨
      ∃ date, rule.IsMonthlyDate index date ∧ ¬ rule.IsWithin hardEnd date

theorem areMonthlyDates_selection (monthly : rule.IsMonthly) (maxCount : CountLimit)
    (hardEnd : Option Date) :
    rule.AreMonthlyDates maxCount hardEnd (rule.selection maxCount hardEnd) := by
  obtain ⟨inOrder, stopped⟩ := (isNumberedBy_monthly monthly).areNumbered_selection
    (fun _ => (exists_isMonthlyDate monthly).trans Int.not_lt.symm) maxCount hardEnd
  exact ⟨inOrder, stopped⟩

/-- **The date number `k` of a monthly rule lies `k` intervals of months after the start,** however
the dates before it were clamped or moved. There are no dates only when the first month after the
start lies in a year that cannot be reported, which takes an interval of more digits than can be
written (`not_isUnreportable_of_isMonthly`). -/
theorem dates_monthly (monthly : rule.IsMonthly) {maxCount : CountLimit} {hardEnd : Option Date}
    (bounded : rule.IsBounded maxCount hardEnd) :
    (¬ rule.IsUnreportable maxCount hardEnd ∧
      ∃ dates, rule.dates (.dated maxCount hardEnd) = .ok dates ∧
        rule.AreMonthlyDates maxCount hardEnd dates) ∨
    (rule.IsUnreportable maxCount hardEnd ∧ ¬ IsWritable rule.interval ∧
      rule.dates (.dated maxCount hardEnd) = .error (.calendar .unwritable)) := by
  rw [dates_eq bounded]
  by_cases unreportable : rule.IsUnreportable maxCount hardEnd
  · rw [if_pos unreportable]
    refine Or.inr ⟨unreportable, fun writable => ?_, rfl⟩
    exact not_isUnreportable_of_isMonthly monthly writable maxCount hardEnd unreportable
  · rw [if_neg unreportable]
    exact Or.inl ⟨unreportable, _, rfl, areMonthlyDates_selection monthly maxCount hardEnd⟩

/-- A rule for the last day of every month. -/
def monthEnds : Rule where
  pattern := .monthlyByDay ⟨31, by decide, by decide⟩
  interval := 1
  startDate := ⟨739647, by decide, by decide⟩
  endDate := none
  one_le_interval := by decide
  start_le_end := nofun

theorem dates_monthEnds :
    monthEnds.IsMonthly ∧ monthEnds.IsBounded (.whole 3 (by decide)) none ∧
      ∃ dates, monthEnds.dates (.dated (.whole 3 (by decide)) none) = .ok dates ∧
        monthEnds.AreMonthlyDates (.whole 3 (by decide)) none dates := by
  have monthly : monthEnds.IsMonthly := Or.inl rfl
  have bounded : monthEnds.IsBounded (.whole 3 (by decide)) none := Or.inl nofun
  have writable : IsWritable monthEnds.interval := isWritable_of_fits64 (by decide)
  rcases dates_monthly monthly bounded with ⟨_, outcome⟩ | ⟨_, unwritable, _⟩
  · exact ⟨monthly, bounded, outcome⟩
  · exact absurd writable unwritable

/-- A rule for the first of March once in so many years that their number has a digit too many. -/
def distantMonths : Rule where
  pattern := .monthlyByDay ⟨1, by decide, by decide⟩
  interval := 12 * (Nat.pow 10 maxDigits : Int)
  startDate := distant.startDate
  endDate := none
  one_le_interval := by
    have large := word_le_pow_maxDigits
    omega
  start_le_end := distant.start_le_end

/-- Its start is not had as the only one of three dates, although the next one is past the
calendar. -/
theorem dates_distantMonths :
    distantMonths.IsMonthly ∧ distantMonths.IsBounded (.whole 3 (by decide)) none ∧
      9999 < (distantMonths.monthAfter 1).year ∧
      distantMonths.dates (.dated (.whole 3 (by decide)) none) = .error (.calendar .unwritable) ∧
      ¬ ∃ dates, distantMonths.dates (.dated (.whole 3 (by decide)) none) = .ok dates ∧
        distantMonths.AreMonthlyDates (.whole 3 (by decide)) none dates := by
  have monthly : distantMonths.IsMonthly := Or.inl rfl
  have bounded : distantMonths.IsBounded (.whole 3 (by decide)) none := isBounded_whole ..
  have next : (Nat.pow 10 maxDigits : Int) ≤
      (distantMonths.startDate.yearMonth.shift distantMonths.interval).year := by
    have begun := distantMonths.startDate.index_yearMonth_bounds
    have length : distantMonths.interval = 12 * (Nat.pow 10 maxDigits : Int) := rfl
    simp only [YearMonth.shift, YearMonth.ofIndex, length]
    omega
  have far : ¬ IsWritable
      (distantMonths.startDate.yearMonth.shift distantMonths.interval).year := by
    unfold IsWritable
    omega
  have unreportable : distantMonths.IsUnreportable (.whole 3 (by decide)) none :=
    isUnreportable_iff.mpr ⟨isWithin_none rfl _, by decide, Or.inl ⟨monthly, far⟩⟩
  have failed : distantMonths.dates (.dated (.whole 3 (by decide)) none) =
      .error (.calendar .unwritable) := by
    rw [dates_eq bounded, if_pos unreportable]
  have past : 9999 < (distantMonths.monthAfter 1).year := by
    have large := word_le_pow_maxDigits
    have single : ((1 : Nat) : Int) * distantMonths.interval = distantMonths.interval :=
      Int.one_mul _
    unfold monthAfter
    rw [single]
    omega
  refine ⟨monthly, bounded, past, failed, ?_⟩
  rintro ⟨dates, produced, _⟩
  cases failed.symm.trans produced

end Rule

end Recurrence
