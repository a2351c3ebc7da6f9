/-
**A sequence stops only where an end date or the calendar does.**

The day that a rule comes to next has a number, whether the calendar has that day or not
(`Rule.nextDay`). Unless the count stops it, a sequence goes on until that day is past an end date
or past the calendar. The exception is a weekly rule that has used up the week whose Sunday lies
before the calendar: it stops there, although the calendar may have its next date.

* `WeekdaySet.next_eq_ofDayNumber`, `YearMonth.dayOn_eq`: the day of a weekly rule and of a weekday
  of a month;
* `Rule.next_eq_nextDay`: going on leads to that day, or the day is past the calendar;
* `Rule.OnCourse.getElem?_succ`: the course of a rule goes on from date to date;
* `Rule.dates_stop`: so why the dates under a bound stop.
-/
import Recurrence.Proofs.Rule.Draft
import Recurrence.Proofs.Sequence.Weekly

namespace Recurrence

/-! ### Days beyond the calendar -/

/-- A day from the first on is a date or past the calendar. -/
theorem Date.ofDayNumber_cases {day : Int} (first : 1 ≤ day) :
    (∃ date : Date, ofDayNumber day = .ok date ∧ date.dayNumber = day) ∨
      (∃ cause, ofDayNumber day = .error cause) ∧ 3652059 < day := by
  by_cases last : day ≤ 3652059
  · exact Or.inl ⟨⟨day, first, last⟩, dif_pos ⟨first, last⟩, rfl⟩
  · exact Or.inr ⟨⟨.dateOutOfRange, dif_neg fun inside => last inside.2⟩, by omega⟩

namespace YearMonth

/-- The months after the last year of the calendar lie past it. -/
theorem last_lt_of_outside {month : YearMonth} (proper : month.IsMonth) (later : 1 ≤ month.year)
    (outside : ¬ month.IsInCalendar) {day : Int} (first : 1 ≤ day) :
    3652059 < month.daysBefore + day := by
  have begun := daysBeforeMonth_nonneg month.year proper.1
  have past : 10000 ≤ month.year := by
    unfold IsInCalendar at outside
    omega
  have years := daysBeforeYear_mono past
  have total : daysBeforeYear 10000 = 3652059 := rfl
  unfold daysBefore
  omega

/-- The day of a month that is the first, second, third, fourth or last one on a weekday. -/
def dayOn (month : YearMonth) (ordinal : Ordinal) (weekday : Weekday) : Int :=
  let first := 1 + (weekday.val - (month.daysBefore + 1)) % 7
  match ordinal with
  | .first => first
  | .second => first + 7
  | .third => first + 14
  | .fourth => first + 21
  | .last => month.lastDay - (month.daysBefore + month.lastDay - weekday.val) % 7

theorem one_le_dayOn (month : YearMonth) (ordinal : Ordinal) (weekday : Weekday) :
    1 ≤ month.dayOn ordinal weekday := by
  have long : 28 ≤ month.lastDay := le_monthLength month.year month.month
  unfold dayOn
  cases ordinal <;> simp only [] <;> omega

/-- **A date that an ordinal marks is on that day of its month.** -/
theorem dayOn_eq {ordinal : Ordinal} {date : Date} (marks : ordinal.Marks date) :
    date.yearMonth.dayOn ordinal date.weekday = date.day := by
  have begun := date.one_le_day
  have ended := date.day_le_lastDay
  have placed := date.dayNumber_eq
  have remainder := date.weekday_val
  unfold dayOn
  cases ordinal <;> simp only [Ordinal.Marks] at marks ⊢ <;> omega

end YearMonth

/-! ### The next day -/

namespace WeekdaySet

/-- The number of the next day of a weekly rule: the next chosen weekday of the week, or else the
first one of the week an interval of weeks later. -/
def nextDay (chosen : WeekdaySet) (interval : Int) (current : Date) : Int :=
  match chosen.toList.find? (current.weekday < ·) with
  | some later => 7 * current.week + later.val
  | none => 7 * (current.week + interval) + chosen.first.val

/-- **A weekly rule goes on to that day, if it needs no Sunday from before the calendar.** -/
theorem next_eq_ofDayNumber (chosen : WeekdaySet) {interval : Int} (positive : 1 ≤ interval)
    {current : Date}
    (begun : current.week ≠ 0 ∨ ∃ weekday ∈ chosen, current.weekday < weekday) :
    chosen.next interval current = Date.ofDayNumber (chosen.nextDay interval current) := by
  have placed := current.dayNumber_eq_week
  unfold next nextDay
  cases search : chosen.toList.find? (current.weekday < ·) with
  | some later =>
    simp only [Date.addDays]
    congr 1
    omega
  | none =>
    have started : current.week ≠ 0 := by
      refine begun.resolve_right fun ⟨weekday, member, after⟩ => ?_
      have none := List.find?_eq_none.mp search weekday member
      simp only [decide_eq_true_eq] at none
      exact none after
    obtain ⟨sunday, start, place⟩ := Date.weekStart_eq_ok started
    simp only [start, bind, Except.bind]
    refine (Date.addDays_addDays (by omega) (by omega)).trans ?_
    unfold Date.addDays
    congr 1
    omega

/-- A week that is used up is left through its Sunday, which has to be a date. -/
theorem next_eq_error {chosen : WeekdaySet} {current : Date} (first : current.week = 0)
    (usedUp : ∀ weekday ∈ chosen, weekday ≤ current.weekday) (interval : Int) :
    chosen.next interval current = .error .dateOutOfRange := by
  have search : chosen.toList.find? (current.weekday < ·) = none := by
    refine List.find?_eq_none.mpr fun weekday member => ?_
    simpa using usedUp weekday member
  unfold next
  rw [search]
  simp only [Date.weekStart_eq_error first]
  rfl

theorem one_le_nextDay (chosen : WeekdaySet) {interval : Int} (positive : 1 ≤ interval)
    (current : Date) : 1 ≤ chosen.nextDay interval current := by
  have placed := current.dayNumber_eq_week
  have begun := current.one_le
  unfold nextDay
  cases search : chosen.toList.find? (current.weekday < ·) with
  | some later =>
    have after : current.weekday.val < later.val :=
      Fin.lt_def.mp (by simpa using List.find?_some search)
    simp only []
    omega
  | none =>
    have week : current.week = current.dayNumber / 7 := rfl
    simp only []
    omega

end WeekdaySet

namespace Rule

/-- The number of the day that a rule comes to after the current date, which is the date number
`step` when the start date is number 0. The calendar need not have the day. -/
def nextDay (rule : Rule) (current : Date) (step : Int) : Int :=
  match rule.pattern with
  | .daily => current.dayNumber + rule.interval
  | .weekly weekdays => weekdays.nextDay rule.interval current
  | .monthlyByDay day =>
    let month := current.yearMonth.shift rule.interval
    month.daysBefore + min day.number month.lastDay
  | .monthlyByWeekday ordinal weekday =>
    let month := current.yearMonth.shift rule.interval
    month.daysBefore + month.dayOn ordinal weekday
  | .yearly =>
    let month := rule.anniversaryMonth step
    month.daysBefore + min rule.startDate.day month.lastDay

/-- A weekly rule has used up the chosen weekdays of the week whose Sunday lies before the
calendar. -/
def LosesSunday (rule : Rule) (current : Date) : Prop :=
  ∃ chosen, rule.pattern = .weekly chosen ∧ current.week = 0 ∧
    ∀ weekday ∈ chosen, weekday ≤ current.weekday

variable {rule : Rule}

theorem nextDay_of_picks (monthly : rule.IsMonthly) {current next : Date}
    (picks : rule.pattern.Picks (current.yearMonth.shift rule.interval) next) (step : Int) :
    next.dayNumber = rule.nextDay current step := by
  have placed := next.dayNumber_eq
  unfold nextDay
  unfold Pattern.Picks at picks
  rcases isMonthly_iff.mp monthly with ⟨day, shape⟩ | ⟨ordinal, weekday, shape⟩
  · rw [shape] at picks ⊢
    obtain ⟨month, number⟩ := picks
    simp only []
    rw [placed, number, month]
  · rw [shape] at picks ⊢
    obtain ⟨month, on, marks⟩ := picks
    simp only []
    rw [placed, ← YearMonth.dayOn_eq marks, on, month]

/-- A month past the calendar has no day in it, whatever the rule picks. -/
theorem last_lt_nextDay_monthly (monthly : rule.IsMonthly) {current : Date}
    (outside : ¬ (current.yearMonth.shift rule.interval).IsInCalendar) (step : Int) :
    3652059 < rule.nextDay current step := by
  have proper := YearMonth.isMonth_shift current.yearMonth rule.interval
  have bounds := current.index_yearMonth_bounds
  have positive := rule.one_le_interval
  have long := le_monthLength (current.yearMonth.shift rule.interval).year
    (current.yearMonth.shift rule.interval).month
  have later : 1 ≤ (current.yearMonth.shift rule.interval).year := by
    simp only [YearMonth.shift, YearMonth.ofIndex]
    omega
  unfold nextDay
  rcases isMonthly_iff.mp monthly with ⟨day, shape⟩ | ⟨ordinal, weekday, shape⟩
  · have first := day.one_le
    rw [shape]
    refine YearMonth.last_lt_of_outside proper later outside ?_
    unfold YearMonth.lastDay
    omega
  · rw [shape]
    exact YearMonth.last_lt_of_outside proper later outside (YearMonth.one_le_dayOn _ _ _)

/-- **A rule goes on to its next day, or that day is past the calendar,** unless a weekly rule needs
the Sunday from before the calendar. -/
theorem next_eq_nextDay (rule : Rule) (current : Date) {step : Int} (nonneg : 0 ≤ step) :
    (∃ next, rule.next current step = .ok next ∧ next.dayNumber = rule.nextDay current step) ∨
      (∃ cause, rule.next current step = .error cause) ∧
        (3652059 < rule.nextDay current step ∨ rule.LosesSunday current) := by
  have positive := rule.one_le_interval
  have begun := current.one_le
  rcases rule.daily_or_weekly_or_monthly_or_yearly with
    daily | ⟨chosen, weekly⟩ | monthly | yearly
  · unfold next nextDay
    rw [daily]
    rcases Date.ofDayNumber_cases (show 1 ≤ current.dayNumber + rule.interval by omega) with
      inside | ⟨ended, past⟩
    · exact Or.inl inside
    · exact Or.inr ⟨ended, Or.inl past⟩
  · have day : rule.nextDay current step = chosen.nextDay rule.interval current := by
      unfold nextDay
      rw [weekly]
    rw [next_weekly weekly, day]
    by_cases usable : current.week ≠ 0 ∨ ∃ weekday ∈ chosen, current.weekday < weekday
    · rw [chosen.next_eq_ofDayNumber positive usable]
      rcases Date.ofDayNumber_cases (chosen.one_le_nextDay positive current) with
        inside | ⟨ended, past⟩
      · exact Or.inl inside
      · exact Or.inr ⟨ended, Or.inl past⟩
    · simp only [not_or, Decidable.not_not, not_exists, not_and, Fin.not_lt] at usable
      obtain ⟨first, usedUp⟩ := usable
      exact Or.inr ⟨⟨_, WeekdaySet.next_eq_error first usedUp rule.interval⟩,
        Or.inr ⟨chosen, weekly, first, usedUp⟩⟩
  · by_cases inside : (current.yearMonth.shift rule.interval).IsInCalendar
    · obtain ⟨next, found, picks⟩ := next_monthly_ok monthly step inside
      exact Or.inl ⟨next, found, nextDay_of_picks monthly picks step⟩
    · exact Or.inr ⟨⟨_, next_monthly_error monthly step inside⟩,
        Or.inl (last_lt_nextDay_monthly monthly inside step)⟩
  · have day : rule.nextDay current step = (rule.anniversaryMonth step).daysBefore +
        min rule.startDate.day (rule.anniversaryMonth step).lastDay := by
      unfold nextDay
      rw [yearly]
    rw [day]
    by_cases inside : (rule.anniversaryMonth step).IsInCalendar
    · obtain ⟨next, found, month, number⟩ := next_yearly_ok yearly current inside
      refine Or.inl ⟨next, found, ?_⟩
      rw [next.dayNumber_eq, month, number]
    · have later : 1 ≤ (rule.anniversaryMonth step).year := by
        have onward : 0 ≤ step * rule.interval := Int.mul_nonneg nonneg (by omega)
        have start := rule.startDate.one_le_year
        simp only [anniversaryMonth]
        omega
      have first := rule.startDate.one_le_day
      have long := le_monthLength (rule.anniversaryMonth step).year
        (rule.anniversaryMonth step).month
      refine Or.inr ⟨⟨_, next_yearly_error yearly current inside⟩, Or.inl ?_⟩
      refine YearMonth.last_lt_of_outside (rule.isMonth_anniversaryMonth step) later inside ?_
      unfold YearMonth.lastDay
      omega

/-! ### Going on along the course -/

/-- **The course of a rule goes on from each of its dates to the next one,** if there is one. -/
theorem OnCourse.getElem?_succ {step : Nat} {current : Date}
    (onCourse : rule.OnCourse step current) (positive : 1 ≤ step) {index : Nat} {date : Date}
    (found : (rule.courseFrom step current)[index]? = some date) :
    (rule.courseFrom step current)[index + 1]? =
      (rule.next date ((step + index : Nat) : Int)).toOption := by
  have advance := (onCourse.of_getElem? positive found).advance (by omega)
  have second : (rule.courseFrom step current)[index + 1]? =
      (rule.courseFrom (step + index) date)[1]? := by
    rw [← drop_courseFrom found, List.getElem?_drop]
  rw [second]
  cases next : rule.next date ((step + index : Nat) : Int) with
  | error cause =>
    rw [courseFrom_error next]
    rfl
  | ok later =>
    rw [next] at advance
    cases advance with
    | later after _ =>
      rw [courseFrom_ok next after, List.getElem?_cons_succ, getElem?_courseFrom_zero]
      rfl

/-! ### Why the dates under a bound stop -/

/-- The day is past an end date or past the calendar. -/
def IsPast (rule : Rule) (hardEnd : Option Date) (day : Int) : Prop :=
  (∃ last ∈ hardEnd, last.dayNumber < day) ∨ (∃ last ∈ rule.endDate, last.dayNumber < day) ∨
    3652059 < day

instance (rule : Rule) (hardEnd : Option Date) (day : Int) : Decidable (rule.IsPast hardEnd day) :=
  inferInstanceAs (Decidable (_ ∨ _ ∨ _))

variable {maxCount : CountLimit} {hardEnd : Option Date}

theorem isPast_of_not_isWithin {date : Date} (outside : ¬ rule.IsWithin hardEnd date) :
    rule.IsPast hardEnd date.dayNumber := by
  refine Decidable.byContradiction fun notPast =>
    outside ⟨fun last isEnd => ?_, fun last isEnd => ?_⟩
  · exact Int.not_lt.mp fun past => notPast (Or.inl ⟨last, isEnd, past⟩)
  · exact Int.not_lt.mp fun past => notPast (Or.inr (Or.inl ⟨last, isEnd, past⟩))

/-- The last of some dates has the place before their number. -/
theorem exists_place_of_getLast? {dates : List Date} {last : Date}
    (final : dates.getLast? = some last) :
    ∃ index, dates.length = index + 1 ∧ dates[index]? = some last := by
  rw [List.getLast?_eq_getElem?] at final
  have inside := (List.getElem?_eq_some_iff.mp final).1
  exact ⟨dates.length - 1, by omega, final⟩

theorem stop_of_getLast? (reportable : ¬ rule.IsUnreportable maxCount hardEnd) {last : Date}
    (final : (rule.selection maxCount hardEnd).getLast? = some last)
    (short : maxCount.isReached (rule.selection maxCount hardEnd).length = false) :
    rule.IsPast hardEnd (rule.nextDay last (rule.selection maxCount hardEnd).length) ∨
      rule.LosesSunday last := by
  obtain ⟨index, length, taken⟩ := exists_place_of_getLast? final
  obtain ⟨found, within, admits⟩ := getElem?_selection.mp taken
  rw [length] at short ⊢
  -- The count admits another date, so the course has none or the next one is past an end.
  have another : maxCount.Admits (index + 1 + 1) := by
    intro fewer positive less
    by_cases all : fewer = index + 1
    · rw [all]
      exact short
    · exact admits fewer positive (by omega)
  have started : rule.OnCourse 1 rule.startDate := by
    refine onCourse_start (Decidable.byContradiction fun unwritable => reportable ⟨?_, ?_, ?_⟩)
    · exact within.of_le (rule.le_of_mem_courseFrom 1 rule.startDate last
        (List.mem_of_getElem? found))
    · exact another 1 (Nat.le_refl 1) (by omega)
    · exact unwritable
  have goesOn := started.getElem?_succ (Nat.le_refl 1) found
  rw [Nat.add_comm 1 index] at goesOn
  rcases rule.next_eq_nextDay last (Int.natCast_nonneg (index + 1)) with
    ⟨next, step, day⟩ | ⟨_, past | lost⟩
  · rw [← day]
    refine Or.inl (isPast_of_not_isWithin fun within' => ?_)
    rw [step] at goesOn
    have taken' := getElem?_selection.mpr ⟨goesOn, within', another⟩
    have inside := (List.getElem?_eq_some_iff.mp taken').1
    omega
  · exact Or.inl (Or.inr (Or.inr past))
  · exact Or.inr lost

/-- A rule that has lost its Sunday does not go on. -/
theorem getLast?_of_losesSunday {date : Date} (member : date ∈ rule.selection maxCount hardEnd)
    (lost : rule.LosesSunday date) :
    (rule.selection maxCount hardEnd).getLast? = some date := by
  obtain ⟨chosen, weekly, first, usedUp⟩ := lost
  obtain ⟨index, taken⟩ := List.mem_iff_getElem?.mp member
  have started : rule.OnCourse 1 rule.startDate := by
    refine onCourse_start ?_
    unfold soughtYear
    rw [weekly]
    exact rule.startDate.isWritable_year
  have goesOn := started.getElem?_succ (Nat.le_refl 1) (getElem?_selection.mp taken).1
  have step := (next_weekly weekly date ((1 + index : Nat) : Int)).trans
    (WeekdaySet.next_eq_error first usedUp rule.interval)
  have missing : ¬ index + 1 < (rule.selection maxCount hardEnd).length := by
    intro inside
    have taken' := List.getElem?_eq_getElem inside
    have there := (getElem?_selection.mp taken').1
    have none : rule.course[index + 1]? = none := by
      refine goesOn.trans ?_
      rw [step]
      rfl
    rw [none] at there
    cases there
  have inside := (List.getElem?_eq_some_iff.mp taken).1
  have length : (rule.selection maxCount hardEnd).length - 1 = index := by omega
  rw [List.getLast?_eq_getElem?, length]
  exact taken

/-- **The dates of a rule stop only where the count, an end date or the calendar stops them,**
except for a weekly rule in the week whose Sunday lies before the calendar. If the count admits
another date, the next day is past an end date or past the calendar, or the rule has used up that
week; and where it has, it always stops. -/
theorem dates_stop {dates : List Date}
    (produced : rule.dates (.dated maxCount hardEnd) = .ok dates) :
    (∀ last, dates.getLast? = some last → maxCount.isReached dates.length = false →
      rule.IsPast hardEnd (rule.nextDay last dates.length) ∨ rule.LosesSunday last) ∧
    ∀ date ∈ dates, rule.LosesSunday date → dates.getLast? = some date := by
  by_cases bounded : rule.IsBounded maxCount hardEnd
  · rw [dates_eq bounded] at produced
    split at produced
    · cases produced
    · rename_i reportable
      cases produced
      exact ⟨fun _ final short => stop_of_getLast? reportable final short,
        fun _ member lost => getLast?_of_losesSunday member lost⟩
  · rw [dates_unbounded bounded] at produced
    cases produced

/-! ### The exception comes up -/

theorem first_le_first : (1 : Int) ≤ 1 := Int.le_refl 1

theorem first_le_last : (1 : Int) ≤ 3652059 := by decide

theorem le_of_mem_none (start : Date) : ∀ last ∈ (none : Option Date), start ≤ last :=
  fun last none => absurd none (Option.not_mem_none last)

/-- The first day of the calendar, which is a Monday. -/
def firstDay : Date := ⟨1, first_le_first, first_le_last⟩

/-- A rule for every Monday from a date on. -/
def everyMonday (start : Date) : Rule where
  pattern := .weekly (.ofList firstDay.weekday [])
  interval := 1
  startDate := start
  endDate := none
  one_le_interval := first_le_first
  start_le_end := le_of_mem_none start

/-- From the first day on it stops at once, though the next Monday is a date within the bound. -/
theorem dates_firstMondays :
    (everyMonday firstDay).dates (.dated (.whole 3 (by decide)) none) = .ok [firstDay] ∧
      CountLimit.isReached (.whole 3 (by decide)) 1 = false ∧
      (everyMonday firstDay).nextDay firstDay 1 = 8 ∧ ¬ (everyMonday firstDay).IsPast none 8 := by
  refine ⟨?_, by decide, by decide, by decide⟩
  exact eq_ok_of_toOption (by decide +kernel)

/-- The last Monday but one of the calendar. -/
def lateDay : Date := ⟨3652048, by decide, by decide⟩

theorem dates_lastMondays :
    ∃ dates last, (everyMonday lateDay).dates (.dated (.whole 9 (by decide)) none) = .ok dates ∧
      dates.map Date.iso = ["9999-12-20", "9999-12-27"] ∧ dates.getLast? = some last ∧
      CountLimit.isReached (.whole 9 (by decide)) dates.length = false ∧
      (everyMonday lateDay).IsPast none ((everyMonday lateDay).nextDay last dates.length) := by
  have produced : (everyMonday lateDay).dates (.dated (.whole 9 (by decide)) none) =
      .ok [lateDay, ⟨3652055, by decide, by decide⟩] := eq_ok_of_toOption (by decide +kernel)
  obtain ⟨stops, _⟩ := dates_stop produced
  refine ⟨_, _, produced, by decide +kernel, rfl, rfl, ?_⟩
  rcases stops _ rfl rfl with past | ⟨_, _, first, _⟩
  · exact past
  · cases first

end Rule

end Recurrence
