/-
**The dates of a weekly rule.**

A weekly rule falls on its start and on every later date that is due: on a chosen weekday, whole
intervals of weeks after the week of the start. Going on from one of these dates misses none of
them, since the weeks that are active are the same seen from each. Only a rule that starts in the
week that begins before the calendar does not get beyond that week.

* `WeekdaySet.FallsOn`: the dates of a weekly rule;
* `Rule.mem_courseFrom_weekly`: the course from a date on has the dates that fall on from there;
* `Rule.dates_weekly`: the dates under a bound are these dates in order, within the ends and as many
  as the count admits.
-/
import Recurrence.Proofs.Sequence.Outcome

namespace Recurrence

namespace WeekdaySet

/-- The dates of a weekly rule with a start: the start, and the later dates on a chosen weekday,
whole intervals of weeks after the week of the start. A rule that starts in the week whose Sunday
lies before the calendar has only dates of that week. -/
def FallsOn (chosen : WeekdaySet) (interval : Int) (start date : Date) : Prop :=
  date = start ∨
    (start < date ∧ chosen.IsDue interval start date ∧
      (start.dayNumber < 7 → date.week = start.week))

/-- **From a due date on, the same dates are due.** -/
theorem IsDue.isDue_iff {chosen : WeekdaySet} {interval : Int} {origin middle date : Date}
    (due : chosen.IsDue interval origin middle) :
    chosen.IsDue interval middle date ↔ chosen.IsDue interval origin date := by
  have apart : date.week - origin.week = date.week - middle.week + (middle.week - origin.week) := by
    omega
  unfold IsDue
  rw [apart, Int.dvd_add_left due.2]

/-- Up to the next date nothing falls on, and from there on what did before. -/
theorem fallsOn_iff_next {chosen : WeekdaySet} {interval : Int} {current next : Date}
    (later : current < next) (due : chosen.IsDue interval current next)
    (firstWeek : current.week = 0 → next.week = 0)
    (between : ∀ date, current < date → date < next → ¬ chosen.IsDue interval current date)
    (date : Date) :
    chosen.FallsOn interval current date ↔
      date = current ∨ chosen.FallsOn interval next date := by
  have begun := current.one_le
  have order := Date.lt_def.mp later
  refine or_congr_right ⟨fun ⟨after, dueDate, inWeek⟩ => ?_, fun falls => ?_⟩
  · have notBefore : ¬ date < next := fun before => between date after before dueDate
    have upTo := Int.not_lt.mp notBefore
    by_cases same : date = next
    · exact Or.inl same
    · have beyond := Date.lt_of_le_of_ne upTo (Ne.symm same)
      refine Or.inr ⟨beyond, due.isDue_iff.mpr dueDate, fun early => ?_⟩
      unfold Date.week at inWeek ⊢
      omega
  · rcases falls with same | ⟨after, dueDate, inWeek⟩
    · subst same
      refine ⟨later, due, fun early => ?_⟩
      unfold Date.week at firstWeek ⊢
      omega
    · have after' := Date.lt_def.mp after
      refine ⟨Date.lt_def.mpr ?_, due.isDue_iff.mp dueDate, fun early => ?_⟩
      · omega
      · unfold Date.week at firstWeek inWeek ⊢
        omega

end WeekdaySet

namespace Rule

variable {rule : Rule} {chosen : WeekdaySet}

theorem next_weekly (weekly : rule.pattern = .weekly chosen) (current : Date) (step : Int) :
    rule.next current step = chosen.next rule.interval current := by
  unfold next
  rw [weekly]

/-- **The course from a date on has exactly the dates that fall on from there.** The induction is
on the days left in the calendar. -/
theorem mem_courseFrom_weekly (weekly : rule.pattern = .weekly chosen) (step : Nat)
    (current date : Date) :
    date ∈ rule.courseFrom step current ↔ chosen.FallsOn rule.interval current date := by
  have begun := current.one_le
  rcases chosen.next_spec rule.one_le_interval current with
    ⟨next, found, later, due, firstWeek, between⟩ | ⟨ended, none⟩
  · have step' := (next_weekly weekly current step).trans found
    rw [courseFrom_ok step' later, List.mem_cons, mem_courseFrom_weekly weekly (step + 1) next,
      WeekdaySet.fallsOn_iff_next later due firstWeek between]
  · have step' := (next_weekly weekly current step).trans ended
    rw [courseFrom_error step', List.mem_singleton]
    refine ⟨Or.inl, fun falls => ?_⟩
    rcases falls with same | ⟨after, due, inWeek⟩
    · exact same
    · obtain ⟨first, second⟩ := none date after due
      refine absurd (inWeek ?_) fun sameWeek => second (sameWeek.trans first)
      unfold Date.week at first
      omega
termination_by current.daysLeft
decreasing_by exact Date.daysLeft_lt later

/-- A weekly rule asks for no year that cannot be reported. -/
theorem not_isUnreportable_of_weekly (weekly : rule.pattern = .weekly chosen)
    (maxCount : CountLimit) (hardEnd : Option Date) : ¬ rule.IsUnreportable maxCount hardEnd :=
  not_isUnreportable_of_daily_or_weekly (Or.inr ⟨chosen, weekly⟩) maxCount hardEnd

/-- **The dates of a weekly rule under a bound are all dates that fall on and are within the ends,
in order, as many as the count admits.** -/
theorem dates_weekly (weekly : rule.pattern = .weekly chosen) {maxCount : CountLimit}
    {hardEnd : Option Date} (bounded : rule.IsBounded maxCount hardEnd) :
    ∃ enumeration : List Date,
      enumeration.Pairwise (· < ·) ∧
      (∀ date, date ∈ enumeration ↔
        chosen.FallsOn rule.interval rule.startDate date ∧ rule.IsWithin hardEnd date) ∧
      rule.dates (.dated maxCount hardEnd) = .ok (maxCount.cut enumeration) := by
  refine ⟨rule.course.takeWhile (rule.IsWithin hardEnd ·), ?_, fun date => ?_, ?_⟩
  · exact rule.pairwise_course.sublist (List.takeWhile_sublist _)
  · rw [mem_takeWhile_isWithin]
    exact and_congr_left fun _ => mem_courseFrom_weekly weekly 1 rule.startDate date
  · rw [dates_eq bounded, if_neg (not_isUnreportable_of_weekly weekly maxCount hardEnd)]
    rfl

/-- A rule for the Mondays and Wednesdays of every second week, from a Thursday on. -/
def fortnightly : Rule where
  pattern := .weekly (.ofList 1 [3])
  interval := 2
  startDate := ⟨739617, by decide, by decide⟩
  endDate := none
  one_le_interval := by decide
  start_le_end := nofun

theorem dates_fortnightly :
    fortnightly.pattern = .weekly (.ofList 1 [3]) ∧
      fortnightly.IsBounded (.whole 5 (by decide)) none ∧
      ∃ enumeration : List Date,
        enumeration.Pairwise (· < ·) ∧
        (∀ date, date ∈ enumeration ↔
          (WeekdaySet.ofList 1 [3]).FallsOn 2 fortnightly.startDate date ∧
            fortnightly.IsWithin none date) ∧
        fortnightly.dates (.dated (.whole 5 (by decide)) none) =
          .ok (CountLimit.cut (.whole 5 (by decide)) enumeration) := by
  have weekly : fortnightly.pattern = .weekly (.ofList 1 [3]) := rfl
  have bounded : fortnightly.IsBounded (.whole 5 (by decide)) none := Or.inl nofun
  exact ⟨weekly, bounded, dates_weekly weekly bounded⟩

end Rule

end Recurrence
