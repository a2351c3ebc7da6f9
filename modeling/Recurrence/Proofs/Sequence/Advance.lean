/-
**Where the next date of a rule lies.**

The next date of a weekly rule is the first date after the current one that is due: on a chosen
weekday, whole intervals of weeks after the current week. A monthly rule goes to the month an
interval later and picks a date out of it, a yearly one to the anniversary of its start; out of a
month that lies past year 9999 there is no date.

* `WeekdaySet.next_spec`: the next due date, with nothing due in between;
* `Rule.next_monthly_ok`, `Rule.next_monthly_error`: the date picked out of the month an interval
  later;
* `Rule.next_yearly_ok`, `Rule.next_yearly_error`: the anniversary of the start.
-/
import Recurrence.Sequence.Dates
import Recurrence.Proofs.Calendar.Weekdays

namespace Recurrence

/-! ### Weeks -/

namespace WeekdaySet

/-- The date falls on a chosen weekday, whole intervals of weeks from the week of another date. -/
def IsDue (chosen : WeekdaySet) (interval : Int) (origin date : Date) : Prop :=
  date.weekday ∈ chosen ∧ interval ∣ date.week - origin.week

theorem first_mem (chosen : WeekdaySet) : chosen.first ∈ chosen :=
  List.head_mem chosen.nonempty

/-- No chosen weekday comes before the first. -/
theorem first_le {chosen : WeekdaySet} {weekday : Weekday} (member : weekday ∈ chosen) :
    chosen.first ≤ weekday := by
  have increasing := chosen.increasing
  have member : weekday ∈ chosen.toList := member
  unfold first
  generalize chosen.nonempty = nonempty
  revert nonempty
  cases listed : chosen.toList with
  | nil => exact fun nonempty => absurd rfl nonempty
  | cons head others =>
    intro nonempty
    rw [listed] at member increasing
    rcases List.mem_cons.mp member with rfl | later
    · exact Fin.le_refl _
    · exact Fin.le_of_lt ((List.pairwise_cons.mp increasing).1 weekday later)

/-- The weekday found in a week is the first chosen one after the current. -/
theorem le_of_find? {chosen : WeekdaySet} {current found : Weekday}
    (search : chosen.toList.find? (current < ·) = some found) {weekday : Weekday}
    (member : weekday ∈ chosen) (after : current < weekday) : found ≤ weekday := by
  have increasing := chosen.increasing
  have member : weekday ∈ chosen.toList := member
  obtain ⟨_, before, others, split, missed⟩ := List.find?_eq_some_iff_append.mp search
  rw [split] at member increasing
  rcases List.mem_append.mp member with early | late
  · have notAfter := missed weekday early
    simp only [Bool.not_eq_true', decide_eq_false_iff_not] at notAfter
    exact absurd after notAfter
  · rcases List.mem_cons.mp late with rfl | later
    · exact Fin.le_refl _
    · have ordered := (List.pairwise_cons.mp (List.pairwise_append.mp increasing).2.1).1
      exact Fin.le_of_lt (ordered weekday later)

/-- A due date of a later week lies at least one interval of weeks later. -/
theorem IsDue.add_le_week {chosen : WeekdaySet} {interval : Int} {origin date : Date}
    (due : chosen.IsDue interval origin date) (later : origin.week < date.week) :
    origin.week + interval ≤ date.week := by
  have apart := Int.le_of_dvd (by omega) due.2
  omega

/-- A due date after the current one is not before the weekday found in the current week. -/
theorem IsDue.le_of_find?_some {chosen : WeekdaySet} {interval : Int} {current date : Date}
    {found : Weekday} (search : chosen.toList.find? (current.weekday < ·) = some found)
    (later : current < date) (due : chosen.IsDue interval current date) :
    current.dayNumber + (found.val - current.weekday.val) ≤ date.dayNumber := by
  have order := Date.lt_def.mp later
  have placed := current.dayNumber_eq_week
  have place := date.dayNumber_eq_week
  have short := found.isLt
  by_cases same : date.week = current.week
  · have least : found.val ≤ date.weekday.val :=
      le_of_find? search due.1 (Fin.lt_def.mpr (by omega))
    omega
  · have short' := date.weekday.isLt
    omega

/-- When the current week holds no further chosen weekday, a due date after the current one lies in
a later week. -/
theorem IsDue.week_lt_of_find?_none {chosen : WeekdaySet} {interval : Int} {current date : Date}
    (search : chosen.toList.find? (current.weekday < ·) = none) (later : current < date)
    (due : chosen.IsDue interval current date) : current.week < date.week := by
  have order := Date.lt_def.mp later
  have placed := current.dayNumber_eq_week
  have place := date.dayNumber_eq_week
  have short := current.weekday.isLt
  have notAfter := List.find?_eq_none.mp search date.weekday due.1
  simp only [decide_eq_true_eq, Fin.lt_def] at notAfter
  omega

/-- A due date of a later week is not before the first chosen weekday of the next active week. -/
theorem IsDue.le_of_week_lt {chosen : WeekdaySet} {interval : Int} {current date : Date}
    (due : chosen.IsDue interval current date) (onward : current.week < date.week) :
    7 * (current.week + interval) + chosen.first.val ≤ date.dayNumber := by
  have active := due.add_le_week onward
  have place := date.dayNumber_eq_week
  have least : chosen.first.val ≤ date.weekday.val := first_le due.1
  omega

/-- The chosen weekday that the current week still holds: the next due date is on it. -/
theorem next_of_find?_some {chosen : WeekdaySet} (interval : Int) {current : Date}
    {found : Weekday} (search : chosen.toList.find? (current.weekday < ·) = some found) :
    (∃ next, chosen.next interval current = .ok next ∧ current < next ∧
      chosen.IsDue interval current next ∧ next.week = current.week ∧
      ∀ date, current < date → date < next → ¬ chosen.IsDue interval current date) ∨
    (chosen.next interval current = .error .dateOutOfRange ∧
      ∀ date, current < date → ¬ chosen.IsDue interval current date) := by
  have member : found ∈ chosen := List.mem_of_find?_eq_some search
  have after : current.weekday.val < found.val :=
    Fin.lt_def.mp (by simpa using List.find?_some search)
  have placed := current.dayNumber_eq_week
  have short := found.isLt
  have step : chosen.next interval current =
      current.addDays ((found.val : Int) - current.weekday.val) := by
    unfold next
    rw [search]
  rw [step]
  by_cases inside : current.dayNumber + (found.val - current.weekday.val) ≤ 3652059
  · left
    have begun := current.one_le
    let next : Date := ⟨current.dayNumber + (found.val - current.weekday.val), by omega, inside⟩
    have sameWeek : next.week = current.week := by
      simp only [next, Date.week] at *
      omega
    have on : next.weekday = found := by
      rw [Date.weekday_eq_iff]
      simp only [next, Date.week] at *
      omega
    refine ⟨next, Date.addDays_eq_ok rfl, Date.lt_def.mpr ?_, ⟨?_, ?_⟩, sameWeek, ?_⟩
    · simp only [next]
      omega
    · rw [on]
      exact member
    · rw [sameWeek, Int.sub_self]
      exact Int.dvd_zero interval
    · intro date later before due
      exact absurd (due.le_of_find?_some search later) (Int.not_le.mpr before)
  · right
    refine ⟨Date.addDays_eq_error (Or.inr (by omega)), fun date later due => ?_⟩
    have reached := due.le_of_find?_some search later
    have last := date.le_last
    omega

/-- The current week holds no further chosen weekday: the next due date is the first chosen one of
the next active week. -/
theorem next_of_find?_none {chosen : WeekdaySet} {interval : Int} (positive : 1 ≤ interval)
    {current : Date} (search : chosen.toList.find? (current.weekday < ·) = none) :
    (∃ next, chosen.next interval current = .ok next ∧ current < next ∧
      chosen.IsDue interval current next ∧ current.week ≠ 0 ∧
      ∀ date, current < date → date < next → ¬ chosen.IsDue interval current date) ∨
    (chosen.next interval current = .error .dateOutOfRange ∧
      ∀ date, current < date → chosen.IsDue interval current date →
        current.week = 0 ∧ date.week ≠ 0) := by
  have step : chosen.next interval current = current.weekStart.bind fun sunday =>
      (sunday.addDays (7 * interval)).bind (·.addDays chosen.first.val) := by
    unfold next
    rw [search]
    rfl
  have short := chosen.first.isLt
  by_cases first : current.week = 0
  · right
    rw [step, Date.weekStart_eq_error first]
    refine ⟨rfl, fun date later due => ⟨first, ?_⟩⟩
    have onward := due.week_lt_of_find?_none search later
    omega
  · obtain ⟨sunday, start, placed⟩ := Date.weekStart_eq_ok first
    have begun := sunday.one_le
    have jump : chosen.next interval current =
        sunday.addDays (7 * interval + chosen.first.val) := by
      rw [step, start]
      exact Date.addDays_addDays (by omega) (by omega)
    rw [jump]
    by_cases inside : 7 * (current.week + interval) + chosen.first.val ≤ 3652059
    · left
      let next : Date := ⟨7 * (current.week + interval) + chosen.first.val, by omega, inside⟩
      have nextWeek : next.week = current.week + interval := by
        simp only [next, Date.week] at *
        omega
      have on : next.weekday = chosen.first := by
        rw [Date.weekday_eq_iff]
        simp only [next] at *
        omega
      refine ⟨next, ?_, Date.lt_def.mpr ?_, ⟨?_, ?_⟩, first, fun date later before due => ?_⟩
      · exact Date.addDays_eq_ok (by simp only [next]; omega)
      · have place := current.dayNumber_eq_week
        have short' := current.weekday.isLt
        simp only [next]
        omega
      · rw [on]
        exact chosen.first_mem
      · rw [nextWeek]
        exact ⟨1, by omega⟩
      · have reached := due.le_of_week_lt (due.week_lt_of_find?_none search later)
        exact absurd reached (Int.not_le.mpr before)
    · right
      refine ⟨Date.addDays_eq_error (Or.inr (by omega)), fun date later due => ?_⟩
      have reached := due.le_of_week_lt (due.week_lt_of_find?_none search later)
      have last := date.le_last
      omega

/-- **The next date of a weekly rule is the next due one.** When there is none, the calendar has
ended, or the current week is the one that begins before the calendar. -/
theorem next_spec (chosen : WeekdaySet) {interval : Int} (positive : 1 ≤ interval)
    (current : Date) :
    (∃ next, chosen.next interval current = .ok next ∧ current < next ∧
      chosen.IsDue interval current next ∧ (current.week = 0 → next.week = 0) ∧
      ∀ date, current < date → date < next → ¬ chosen.IsDue interval current date) ∨
    (chosen.next interval current = .error .dateOutOfRange ∧
      ∀ date, current < date → chosen.IsDue interval current date →
        current.week = 0 ∧ date.week ≠ 0) := by
  cases search : chosen.toList.find? (current.weekday < ·) with
  | some found =>
    rcases next_of_find?_some interval search with
      ⟨next, step, later, due, sameWeek, between⟩ | ⟨step, none⟩
    · exact Or.inl ⟨next, step, later, due, fun zero => sameWeek.trans zero, between⟩
    · exact Or.inr ⟨step, fun date after due => absurd due (none date after)⟩
  | none =>
    rcases next_of_find?_none positive search with
      ⟨next, step, later, due, nonzero, between⟩ | ended
    · exact Or.inl ⟨next, step, later, due, fun zero => absurd zero nonzero, between⟩
    · exact Or.inr ended

end WeekdaySet

/-! ### Months and years -/

/-- The date that a monthly pattern picks out of a month: the day of the month, or the month's last
day if the month is shorter, or the date of the month on the weekday with the ordinal. -/
def Pattern.Picks (pattern : Pattern) (month : YearMonth) (date : Date) : Prop :=
  match pattern with
  | monthlyByDay day => date.yearMonth = month ∧ date.day = min day.number month.lastDay
  | monthlyByWeekday ordinal weekday =>
    date.yearMonth = month ∧ date.weekday = weekday ∧ ordinal.Marks date
  | daily | weekly _ | yearly => False

namespace Pattern.Picks

theorem yearMonth_eq {pattern : Pattern} {month : YearMonth} {date : Date}
    (picks : pattern.Picks month date) : date.yearMonth = month := by
  cases pattern with
  | monthlyByDay _ => exact picks.1
  | monthlyByWeekday _ _ => exact picks.1
  | daily => exact picks.elim
  | weekly _ => exact picks.elim
  | yearly => exact picks.elim

/-- **A monthly pattern picks one date only.** -/
theorem unique {pattern : Pattern} {month : YearMonth} {first second : Date}
    (picks : pattern.Picks month first) (picks' : pattern.Picks month second) :
    first = second := by
  have same : first.yearMonth = second.yearMonth :=
    picks.yearMonth_eq.trans picks'.yearMonth_eq.symm
  cases pattern with
  | monthlyByDay _ => exact Date.ext_parts same (picks.2.trans picks'.2.symm)
  | monthlyByWeekday _ _ =>
    exact picks.2.2.unique picks'.2.2 same (picks.2.1.trans picks'.2.1.symm)
  | daily => exact picks.elim
  | weekly _ => exact picks.elim
  | yearly => exact picks.elim

/-- What is picked out of a later month is later. -/
theorem after {pattern : Pattern} {current next : Date} {months : Int}
    (picks : pattern.Picks (current.yearMonth.shift months) next) (positive : 1 ≤ months) :
    current < next := by
  refine Date.lt_of_index_lt ?_
  rw [picks.yearMonth_eq, YearMonth.index_shift]
  omega

end Pattern.Picks

namespace Rule

/-- The rule picks dates out of months. -/
def IsMonthly (rule : Rule) : Prop := rule.kind = .monthlyByDay ∨ rule.kind = .monthlyByWeekday

/-- The rules that pick dates out of months do so by a day of the month or by a weekday. -/
theorem isMonthly_iff {rule : Rule} :
    rule.IsMonthly ↔ (∃ day, rule.pattern = .monthlyByDay day) ∨
      ∃ ordinal weekday, rule.pattern = .monthlyByWeekday ordinal weekday := by
  unfold IsMonthly kind
  cases rule.pattern <;> simp [Pattern.kind]

/-- **A monthly rule goes to the date picked out of the month an interval later.** -/
theorem next_monthly_ok {rule : Rule} (monthly : rule.IsMonthly) {current : Date} (step : Int)
    (inside : (current.yearMonth.shift rule.interval).IsInCalendar) :
    ∃ next, rule.next current step = .ok next ∧
      rule.pattern.Picks (current.yearMonth.shift rule.interval) next := by
  have proper := YearMonth.isMonth_shift current.yearMonth rule.interval
  unfold next Pattern.Picks
  rcases isMonthly_iff.mp monthly with ⟨day, shape⟩ | ⟨ordinal, weekday, shape⟩
  · rw [shape]
    exact YearMonth.onDayOrLast_eq_ok proper inside day.one_le
  · obtain ⟨next, found, months, on, marks⟩ :=
      YearMonth.onWeekday_eq_ok proper inside ordinal weekday
    rw [shape]
    refine ⟨next, ?_, months, on, marks⟩
    simp only []
    rw [YearMonth.requireYear_eq_ok inside]
    exact found

/-- Out of a month outside the calendar no date is picked. -/
theorem next_monthly_error {rule : Rule} (monthly : rule.IsMonthly) {current : Date} (step : Int)
    (outside : ¬ (current.yearMonth.shift rule.interval).IsInCalendar) :
    rule.next current step = .error (current.yearMonth.shift rule.interval).outsideCause := by
  unfold next
  rcases isMonthly_iff.mp monthly with ⟨day, shape⟩ | ⟨ordinal, weekday, shape⟩
  · rw [shape]
    exact YearMonth.onDayOrLast_eq_error outside day.number
  · rw [shape]
    simp only []
    rw [YearMonth.requireYear_eq_error outside]
    rfl

/-- The month of the start date, a number of intervals of years later. -/
def anniversaryMonth (rule : Rule) (step : Int) : YearMonth :=
  { rule.startDate.yearMonth with year := rule.startDate.year + step * rule.interval }

theorem isMonth_anniversaryMonth (rule : Rule) (step : Int) :
    (rule.anniversaryMonth step).IsMonth :=
  YearMonth.isMonth_yearMonth rule.startDate

/-- **A yearly rule goes to the anniversary of its start,** a 29 February becoming the 28th in
years that have none. -/
theorem next_yearly_ok {rule : Rule} (yearly : rule.pattern = .yearly) (current : Date)
    {step : Int} (inside : (rule.anniversaryMonth step).IsInCalendar) :
    ∃ next, rule.next current step = .ok next ∧ next.yearMonth = rule.anniversaryMonth step ∧
      next.day = min rule.startDate.day (rule.anniversaryMonth step).lastDay := by
  unfold next
  rw [yearly]
  exact YearMonth.onDayOrLast_eq_ok (rule.isMonth_anniversaryMonth step) inside
    rule.startDate.one_le_day

theorem next_yearly_error {rule : Rule} (yearly : rule.pattern = .yearly) (current : Date)
    {step : Int} (outside : ¬ (rule.anniversaryMonth step).IsInCalendar) :
    rule.next current step = .error (rule.anniversaryMonth step).outsideCause := by
  unfold next
  rw [yearly]
  exact YearMonth.onDayOrLast_eq_error outside rule.startDate.day

end Rule

end Recurrence
