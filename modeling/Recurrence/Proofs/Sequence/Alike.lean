/-
**Rules that mean the same.**

The anniversaries of a start are a day of every twelfth month, a number of weeks is seven times as
many days, and every day is on some weekday. So the same dates can be described by rules of
different patterns. These go on in different ways: a yearly rule counts from its start and a monthly
one from the last date, which may be clamped; a daily rule adds days, and a weekly one goes back to
the Sunday first. But from each date that they come to they go on to the same date, or fail for the
same cause.

* `Rule.dates_congr`: rules that go on alike from all dates of one of them have the same dates;
* `Rule.next_yearly_eq_next_monthly`, `WeekdaySet.next_only`, `WeekdaySet.next_all`: the rules that
  do;
* `Rule.dates_alike`: their dates.
-/
import Recurrence.Rule.Switch
import Recurrence.Proofs.Sequence.Stop
import Recurrence.Proofs.Sequence.Stepped

namespace Recurrence

namespace Rule

variable {rule other : Rule}

/-! ### Going on alike -/

section Alike

variable {isDate : Nat → Date → Prop} (numbered : rule.IsNumberedBy isDate)
  (sameNext : ∀ {number : Nat} {current : Date}, isDate number current →
    other.next current ((number + 1 : Nat) : Int) = rule.next current ((number + 1 : Nat) : Int))
include numbered sameNext

/-- From a date of the rule, both rules come to the same dates and stop alike. The induction is on
the days left in the calendar. -/
theorem sequenceFrom_congr (limits : Limits) (produced : Array Date) (current : Date)
    (here : isDate produced.size current) :
    other.sequenceFrom limits produced current = rule.sequenceFrom limits produced current := by
  rw [sequenceFrom.eq_def other, sequenceFrom.eq_def rule]
  simp only [Array.size_push, sameNext here]
  split
  · rfl
  · rcases numbered.goesOn here with ⟨next, found, later, there⟩ | ⟨⟨cause, ended⟩, _⟩
    · simp only [found, Date.following, dif_pos later]
      split
      · rfl
      · rfl
      · refine sequenceFrom_congr limits (produced.push current) next ?_
        rw [Array.size_push]
        exact there
    · rw [ended]
termination_by current.daysLeft
decreasing_by exact Date.daysLeft_lt ‹_›

/-- **Rules that go on alike from all dates of one of them have the same dates,** whatever the
bound, or fail for the same cause. -/
theorem dates_congr (sameStart : other.startDate = rule.startDate)
    (sameEnd : other.endDate = rule.endDate) (bound : Bound) :
    other.dates bound = rule.dates bound := by
  unfold dates sequence
  simp only [sameStart, sameEnd,
    sequenceFrom_congr numbered sameNext _ #[] rule.startDate numbered.start]

end Alike

/-! ### Years as months -/

/-- From an anniversary of its start, a yearly rule goes on like a rule for the start's day of every
twelfth month. -/
theorem next_yearly_eq_next_monthly (yearly : rule.pattern = .yearly)
    (monthly : other.pattern = .monthlyByDay (.ofDate rule.startDate))
    (months : other.interval = 12 * rule.interval) {number : Nat} {current : Date}
    (here : rule.IsAnniversary number current) :
    other.next current ((number + 1 : Nat) : Int) =
      rule.next current ((number + 1 : Nat) : Int) := by
  have proper := rule.isMonth_anniversaryMonth ((number + 1 : Nat) : Int)
  have sameMonth : current.yearMonth.shift other.interval =
      rule.anniversaryMonth ((number + 1 : Nat) : Int) := by
    rw [← YearMonth.ofIndex_index proper, index_anniversaryMonth, succ_mul_interval,
      (isAnniversary_iff.mp here).1, YearMonth.shift, index_anniversaryMonth, months]
    congr 1
    omega
  unfold next
  rw [yearly, monthly]
  simp only [sameMonth]
  rfl

end Rule

/-! ### Weeks as days -/

/-- The first Sunday of the calendar, 0001-01-07. -/
def Date.firstSunday : Date := ⟨7, by decide, by decide⟩

/-- From the first Sunday on, every week has its Sunday in the calendar. -/
theorem Date.week_ne_zero {date : Date} (begun : firstSunday ≤ date) : date.week ≠ 0 := by
  have reached : 7 ≤ date.dayNumber := begun
  unfold week
  omega

namespace WeekdaySet

/-- All seven weekdays. -/
def all : WeekdaySet where
  toList := List.finRange 7
  increasing := by decide
  nonempty := by decide

variable {current : Date} (begun : Date.firstSunday ≤ current)
include begun

/-- **From a date on its only weekday, a weekly rule goes on by whole weeks.** -/
theorem next_only {interval : Int} (positive : 1 ≤ interval) :
    (ofList current.weekday []).next interval current = current.addDays (7 * interval) := by
  have only {weekday : Weekday} : weekday ∈ ofList current.weekday [] ↔ weekday = current.weekday :=
    mem_ofList.trans List.mem_singleton
  have first : (ofList current.weekday []).first = current.weekday :=
    only.mp (first_mem _)
  have search : (ofList current.weekday []).toList.find? (current.weekday < ·) = none := by
    refine List.find?_eq_none.mpr fun weekday member => ?_
    rw [only.mp member]
    simp
  have placed := current.dayNumber_eq_week
  rw [next_eq_ofDayNumber _ positive (Or.inl (Date.week_ne_zero begun)), nextDay, search]
  simp only [first, Date.addDays]
  congr 1
  omega

/-- **A weekly rule for all weekdays goes on by one day.** -/
theorem next_all : all.next 1 current = current.addDays 1 := by
  have placed := current.dayNumber_eq_week
  have first : all.first = 0 := by decide
  have search : ∀ weekday : Weekday, all.toList.find? (weekday < ·) =
      if weekday = 6 then none else some (weekday + 1) := by decide
  have next : ∀ weekday : Weekday, weekday ≠ 6 → (weekday + 1).val = weekday.val + 1 := by decide
  rw [next_eq_ofDayNumber _ (Int.le_refl 1) (Or.inl (Date.week_ne_zero begun)), nextDay, search]
  by_cases saturday : current.weekday = 6
  · rw [if_pos saturday]
    simp only [first, Date.addDays, saturday] at placed ⊢
    congr 1
    omega
  · have tomorrow := next current.weekday saturday
    rw [if_neg saturday]
    simp only [Date.addDays, tomorrow]
    congr 1
    omega

end WeekdaySet

namespace Rule

variable {rule other : Rule}

/-- The dates of a daily rule come after its start. -/
theorem IsDayAfter.startDate_le {number : Nat} {date : Date} (here : rule.IsDayAfter number date) :
    rule.startDate ≤ date := by
  have onward := rule.mul_interval_nonneg number
  have placed : date.dayNumber = _ := here
  rw [Date.le_def, placed]
  omega

/-- Whole weeks after the start it is the start's weekday. -/
theorem IsDayAfter.weekday_eq {number : Nat} {date : Date} (here : rule.IsDayAfter number date)
    {weeks : Int} (whole : rule.interval = 7 * weeks) : date.weekday = rule.startDate.weekday := by
  have placed : date.dayNumber = _ := here
  rw [Date.weekday_eq_iff, Date.weekday_val, placed, whole, Int.mul_left_comm,
    Int.add_mul_emod_self_left]

/-! ### The same dates -/

/-- **Rules that mean the same have the same dates under every bound, or fail alike:** a yearly rule
and one for the start's day of twelve times as many months; and from the first Sunday of the
calendar on, a daily rule for a number of weeks and one for the start's weekday in as many weeks,
and a rule for every day and one for all weekdays of every week. A weekly rule that starts before
that Sunday does not get beyond its first week. -/
theorem dates_alike (sameStart : other.startDate = rule.startDate)
    (sameEnd : other.endDate = rule.endDate) (bound : Bound) :
    (rule.pattern = .yearly → other.pattern = .monthlyByDay (.ofDate rule.startDate) →
      other.interval = 12 * rule.interval → other.dates bound = rule.dates bound) ∧
    (Date.firstSunday ≤ rule.startDate → rule.pattern = .daily →
      (other.pattern = .weekly (.ofList rule.startDate.weekday []) →
        rule.interval = 7 * other.interval → other.dates bound = rule.dates bound) ∧
      (other.pattern = .weekly .all → rule.interval = 1 → other.interval = 1 →
        other.dates bound = rule.dates bound)) := by
  refine ⟨fun yearly monthly months => ?_, fun begun daily => ⟨fun weekly weeks => ?_,
    fun weekly single single' => ?_⟩⟩
  · refine dates_congr (isNumberedBy_yearly yearly) (fun here => ?_) sameStart sameEnd bound
    exact next_yearly_eq_next_monthly yearly monthly months here
  · refine dates_congr (isNumberedBy_daily daily) (fun here => ?_) sameStart sameEnd bound
    rw [next_daily daily, next_weekly weekly, ← here.weekday_eq weeks, weeks]
    exact WeekdaySet.next_only (Int.le_trans begun here.startDate_le) other.one_le_interval
  · refine dates_congr (isNumberedBy_daily daily) (fun here => ?_) sameStart sameEnd bound
    rw [next_daily daily, next_weekly weekly, single, single']
    exact WeekdaySet.next_all (Int.le_trans begun here.startDate_le)

/-- A rule that starts with the 29 February 2000. -/
def fromLeapDay (pattern : Pattern) (interval : Int) (one_le : 1 ≤ interval) : Rule :=
  { everyCentury with pattern := pattern, interval := interval, one_le_interval := one_le }

theorem dates_alike_leapDay :
    Date.firstSunday ≤ everyCentury.startDate ∧
      (fromLeapDay (.monthlyByDay (.ofDate everyCentury.startDate)) 1200 (by decide)).dates
          (.dated (.whole 3 (by decide)) none) =
        everyCentury.dates (.dated (.whole 3 (by decide)) none) ∧
      (fromLeapDay (.weekly (.ofList everyCentury.startDate.weekday [])) 2 (by decide)).dates
          (.dated (.whole 3 (by decide)) none) =
        (fromLeapDay .daily 14 (by decide)).dates (.dated (.whole 3 (by decide)) none) ∧
      (fromLeapDay (.weekly .all) 1 (by decide)).dates (.dated (.whole 3 (by decide)) none) =
        (fromLeapDay .daily 1 (by decide)).dates (.dated (.whole 3 (by decide)) none) := by
  have begun : Date.firstSunday ≤ everyCentury.startDate := by decide
  have years := @dates_alike everyCentury
    (fromLeapDay (.monthlyByDay (.ofDate everyCentury.startDate)) 1200 (by decide)) rfl rfl
    (.dated (.whole 3 (by decide)) none)
  have weeks := @dates_alike (fromLeapDay .daily 14 (by decide))
    (fromLeapDay (.weekly (.ofList everyCentury.startDate.weekday [])) 2 (by decide)) rfl rfl
    (.dated (.whole 3 (by decide)) none)
  have days := @dates_alike (fromLeapDay .daily 1 (by decide))
    (fromLeapDay (.weekly .all) 1 (by decide)) rfl rfl (.dated (.whole 3 (by decide)) none)
  refine ⟨begun, ?_, ?_, ?_⟩
  · exact years.1 rfl rfl rfl
  · exact (weeks.2 begun rfl).1 rfl rfl
  · exact (days.2 begun rfl).2 rfl rfl rfl

end Rule

end Recurrence
