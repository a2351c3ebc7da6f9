/-
**The month calendar shows the dates of a rule.**

The calendar call does not produce all dates of a rule. It stops at the last day of the grid, or
does not begin when that day lies before the start. Nothing shown is lost by this: all hard ends cut
the same course, and no cell lies past the last day.

* `Rule.mem_selection_iff_exists_dates`: a date before two hard ends is taken under both or neither;
* `Service.calendar_eq_ok`, `Service.calendar_eq_error`: what the call comes to;
* `Service.Shows`: a view that shows the dates of a rule;
* `Service.calendar_shows`: the call answers with such a view, unless the first year after the start
  cannot be reported.
-/
import Recurrence.Proofs.Calendar.Grid
import Recurrence.Proofs.Service.Preview
import Recurrence.Proofs.Service.Request

namespace Recurrence

namespace Rule

/-! ### Dates before the ends -/

variable {rule : Rule} {maxCount : CountLimit} {hardEnd hardEnd' : Option Date} {date : Date}

/-- **Whether a date that is before the hard ends is taken does not depend on them.** -/
theorem mem_selection_iff (before : ∀ last ∈ hardEnd, date ≤ last)
    (before' : ∀ last ∈ hardEnd', date ≤ last) :
    date ∈ rule.selection maxCount hardEnd ↔ date ∈ rule.selection maxCount hardEnd' := by
  have within : rule.IsWithin hardEnd date ↔ rule.IsWithin hardEnd' date :=
    and_congr_left fun _ => iff_of_true before before'
  simp only [List.mem_iff_getElem?, getElem?_selection, within]

theorem start_le_of_mem_selection (member : date ∈ rule.selection maxCount hardEnd) :
    rule.startDate ≤ date :=
  rule.le_of_mem_courseFrom 1 rule.startDate date
    ((rule.selection_sublist maxCount hardEnd).subset member)

/-- **A date that is before the hard ends is taken under one of them exactly when it is among the
dates under the other.** Where these cannot be had, the start lies past the first hard end. -/
theorem mem_selection_iff_exists_dates (reportable : ¬ rule.IsUnreportable maxCount hardEnd)
    (bounded : rule.IsBounded maxCount hardEnd') (before : ∀ last ∈ hardEnd, date ≤ last)
    (before' : ∀ last ∈ hardEnd', date ≤ last) :
    date ∈ rule.selection maxCount hardEnd ↔
      ∃ dates, rule.dates (.dated maxCount hardEnd') = .ok dates ∧ date ∈ dates := by
  rw [dates_eq bounded]
  by_cases unreportable : rule.IsUnreportable maxCount hardEnd'
  · rw [if_pos unreportable]
    constructor
    · intro member
      have within : rule.IsWithin hardEnd rule.startDate :=
        ⟨fun last hard => Int.le_trans (start_le_of_mem_selection member) (before last hard),
          unreportable.1.2⟩
      exact absurd ⟨within, unreportable.2⟩ reportable
    · rintro ⟨dates, failed, _⟩
      cases failed
  · rw [if_neg unreportable, mem_selection_iff before before']
    constructor
    · exact fun member => ⟨_, rfl, member⟩
    · rintro ⟨dates, same, member⟩
      cases same
      exact member

end Rule

namespace Service

/-! ### The calendar call -/

/-- The month that a calendar is asked for, which is that of the start unless it is given. -/
def askedMonth (rule : Rule) (year month : Option Int) : YearMonth :=
  ⟨year.getD rule.startDate.year, month.getD rule.startDate.month⟩

theorem outcome_generated_unwritable {rule : Rule} {bound : Bound}
    (failed : rule.sequence bound = .error (.calendar .unwritable)) (progress : Progress) :
    (generated rule bound).outcome progress =
      (.error (.broken (.calendar .unwritable)), progress) := by
  unfold generated
  rw [failed]
  rfl

/-- **The calendar breaks off where the month has no grid.** -/
theorem calendar_of_no_grid {form : RuleForm} {rule : Rule}
    (valid : form.toDraft.toRule = .ok rule) {year month : Option Int} {cause : CalendarError}
    (none : (askedMonth rule year month).gridEnd = .error cause) (maxCount : Option Int)
    (settings : Settings) (today : Date) (rows : List Record) :
    ((Call.calendar form year month maxCount).answer settings today rows).1 =
      .error (.broken (.calendar cause)) := by
  unfold askedMonth at none
  rw [Call.answer_eq, Call.handle]
  simp only [Handler.outcome_bind, valid, outcome_settle_ok, none]
  rfl

section

variable {form : RuleForm} {rule : Rule} (valid : form.toDraft.toRule = .ok rule)
  {maxCount : Option Int} {limit : CountLimit}
  (accepted : CountLimit.ofValue (.ofOption .int maxCount) = .ok limit)
  {year month : Option Int} {lastShown : Date}
  (ends : (askedMonth rule year month).gridEnd = .ok lastShown)
include valid accepted ends

/-- **The calendar shows what the last day of the grid leaves of the dates.** Where that day lies
before the start it leaves none. -/
theorem calendar_eq_ok (reportable : ¬ rule.IsUnreportable limit (some lastShown))
    {view : MonthView} (shows : MonthView.showing (rule.selection limit (some lastShown))
      (askedMonth rule year month) = .ok view)
    (settings : Settings) (today : Date) (rows : List Record) :
    ((Call.calendar form year month maxCount).answer settings today rows).1 =
      .ok ⟨200, monthDocument view⟩ := by
  unfold askedMonth at ends shows
  rw [Call.answer_eq, Call.handle]
  simp only [Handler.outcome_bind, valid, outcome_settle_ok, ends, mapError_ok]
  by_cases early : lastShown < rule.startDate
  · have none : rule.selection limit (some lastShown) = [] := by
      refine (rule.produces_selection limit (some lastShown)).empty_iff.mpr fun within => ?_
      exact Int.not_le.mpr early (within.1 lastShown rfl)
    rw [none] at shows
    simp only [if_pos early, Handler.outcome_bind, outcome_pure, shows, mapError_ok,
      outcome_settle_ok]
  · have bounded : rule.IsBounded limit (some lastShown) := Or.inr (Or.inl (Option.some_ne_none _))
    have dates := Rule.dates_eq_ok bounded reportable
    obtain ⟨sequence, produced, taken⟩ := Rule.exists_sequence_of_dates dates
    have produced' : rule.sequence ⟨limit, .date lastShown⟩ = .ok sequence := produced
    rw [← taken] at shows
    simp only [if_neg early, Handler.outcome_bind, accepted, outcome_settle_ok,
      outcome_generated produced', shows, mapError_ok, outcome_pure]

/-- **The calendar breaks off where the first year after the start cannot be reported.** -/
theorem calendar_eq_error (unreportable : rule.IsUnreportable limit (some lastShown))
    (settings : Settings) (today : Date) (rows : List Record) :
    ((Call.calendar form year month maxCount).answer settings today rows).1 =
      .error (.broken (.calendar .unwritable)) := by
  unfold askedMonth at ends
  rw [Call.answer_eq, Call.handle]
  have late : ¬ lastShown < rule.startDate := Int.not_lt.mpr (unreportable.1.1 lastShown rfl)
  have bounded : rule.IsBounded limit (some lastShown) := Or.inr (Or.inl (Option.some_ne_none _))
  have dates := Rule.dates_eq bounded
  rw [if_pos unreportable] at dates
  have failed : rule.sequence ⟨limit, .date lastShown⟩ = .error (.calendar .unwritable) :=
    Rule.sequence_of_dates_error dates
  simp only [Handler.outcome_bind, valid, outcome_settle_ok, ends, mapError_ok, if_neg late,
    accepted, outcome_generated_unwritable failed]

end

/-! ### The view -/

/-- The view of a month shows the dates of a rule: its cells are the days of the month's grid, and
those are selected that are among the dates under the count and any hard end not before the end of
the grid. -/
structure Shows (rule : Rule) (limit : CountLimit) (asked : YearMonth) (view : MonthView) :
    Prop where
  month : view.month = asked
  days : view.weeks.flatten.map (·.date.dayNumber) = dayRun asked.gridFirst asked.gridLast
  selected : ∀ cell ∈ view.weeks.flatten, ∀ hardEnd : Option Date,
    (∀ last ∈ hardEnd, asked.gridLast ≤ last.dayNumber) → rule.IsBounded limit hardEnd →
      (cell.selected = true ↔
        ∃ dates, rule.dates (.dated limit hardEnd) = .ok dates ∧ cell.date ∈ dates)

/-- **Selecting what the last day of the grid leaves of the dates shows the dates.** -/
theorem shows_of_selection {rule : Rule} {limit : CountLimit} {asked : YearMonth} {view : MonthView}
    {lastShown : Date} (reportable : ¬ rule.IsUnreportable limit (some lastShown))
    (number : lastShown.dayNumber = asked.gridLast) (month : view.month = asked)
    (days : view.weeks.flatten.map (·.date.dayNumber) = dayRun asked.gridFirst asked.gridLast)
    (selected : ∀ cell ∈ view.weeks.flatten,
      cell.selected = true ↔ cell.date ∈ rule.selection limit (some lastShown)) :
    Shows rule limit asked view where
  month := month
  days := days
  selected cell member hardEnd later bounded := by
    have shown : cell.date.dayNumber ∈ dayRun asked.gridFirst asked.gridLast := by
      rw [← days]
      exact List.mem_map_of_mem member
    have before := (mem_dayRun.mp shown).2
    rw [selected cell member]
    refine Rule.mem_selection_iff_exists_dates reportable bounded ?_ fun last hard => ?_
    · intro last hard
      rw [← Option.some_inj.mp hard, Date.le_def, number]
      exact before
    · exact Int.le_trans before (later last hard)

/-- The month that a request asks for has a grid in the calendar, unless it is the first or the last
month of the calendar. -/
theorem isShowable_askedMonth {rule : Rule} {year month : Option Int}
    (years : ∀ number ∈ year, 1 ≤ number ∧ number ≤ 9999)
    (months : ∀ number ∈ month, 1 ≤ number ∧ number ≤ 12)
    (notFirst : askedMonth rule year month ≠ ⟨1, 1⟩)
    (notLast : askedMonth rule year month ≠ ⟨9999, 12⟩) :
    (askedMonth rule year month).IsShowable := by
  refine ⟨?_, ?_, notFirst, notLast⟩
  · cases month with
    | none => exact ⟨rule.startDate.one_le_month, rule.startDate.month_le⟩
    | some number => exact months number rfl
  · cases year with
    | none => exact ⟨rule.startDate.one_le_year, rule.startDate.year_le⟩
    | some number => exact years number rfl

/-- A count that a request can ask for limits the dates. -/
theorem exists_limit {maxCount : Option Int} (positive : ∀ count ∈ maxCount, 1 ≤ count) :
    ∃ limit, CountLimit.ofValue (.ofOption .int maxCount) = .ok limit := by
  cases maxCount with
  | none => exact ⟨.unlimited, rfl⟩
  | some count => exact ⟨.whole count (positive count rfl), dif_pos (positive count rfl)⟩

/-- **The month calendar shows exactly the dates of the rule,** whatever the request and the month
that it asks for, unless the first year after the start lies so far away that it cannot be reported.
Then the call breaks off, and so does every other attempt to have the dates up to the end of the
grid or beyond. -/
theorem calendar_shows {settings : Settings} {query : Parts} {document : Option Value}
    {form : RuleForm} {rule : Rule} {year month maxCount : Option Int}
    (made : Endpoint.calendar.call settings query document =
      .accepted (.calendar form year month maxCount))
    (valid : form.toDraft.toRule = .ok rule) (notFirst : askedMonth rule year month ≠ ⟨1, 1⟩)
    (notLast : askedMonth rule year month ≠ ⟨9999, 12⟩) (today : Date) (rows : List Record) :
    ∃ (limit : CountLimit) (lastShown : Date),
      CountLimit.ofValue (.ofOption .int maxCount) = .ok limit ∧
      (askedMonth rule year month).gridEnd = .ok lastShown ∧
      lastShown.dayNumber = (askedMonth rule year month).gridLast ∧
      if rule.IsUnreportable limit (some lastShown) then
        ((Call.calendar form year month maxCount).answer settings today rows).1 =
            .error (.broken (.calendar .unwritable)) ∧
          ∀ hardEnd, (∀ last ∈ hardEnd, lastShown ≤ last) → rule.IsBounded limit hardEnd →
            rule.dates (.dated limit hardEnd) = .error (.calendar .unwritable)
      else
        ∃ view, ((Call.calendar form year month maxCount).answer settings today rows).1 =
            .ok ⟨200, monthDocument view⟩ ∧
          Shows rule limit (askedMonth rule year month) view := by
  obtain ⟨years, months, counts⟩ := calendar_ranges made
  have showable := isShowable_askedMonth years months notFirst notLast
  obtain ⟨limit, accepted⟩ := exists_limit fun count asked => (counts count asked).1
  obtain ⟨lastShown, ends, number⟩ := YearMonth.gridEnd_eq_ok showable
  refine ⟨limit, lastShown, accepted, ends, number, ?_⟩
  split
  · rename_i unreportable
    refine ⟨calendar_eq_error valid accepted ends unreportable settings today rows, ?_⟩
    intro hardEnd later bounded
    have start : rule.startDate ≤ lastShown := unreportable.1.1 lastShown rfl
    have within : rule.IsWithin hardEnd rule.startDate :=
      ⟨fun last hard => Int.le_trans start (later last hard), unreportable.1.2⟩
    rw [Rule.dates_eq bounded, if_pos ⟨within, unreportable.2⟩]
  · rename_i reportable
    obtain ⟨view, shows, asked, days, selected⟩ := MonthView.showing_eq_ok showable
      (rule.selection limit (some lastShown))
    refine ⟨view, calendar_eq_ok valid accepted ends reportable shows settings today rows, ?_⟩
    exact shows_of_selection reportable number asked days selected

/-! ### The exception comes up -/

/-- A request for the calendar of a yearly rule from 2026-03-01 on. -/
def marchRequest (interval : Int) (asked : List (Text × Value)) : Value :=
  .object (("rule", .object [("recurrence_type", .text "yearly"), ("interval", .int interval),
    ("start_date", .text "2026-03-01")]) :: asked)

/-- The form of a yearly rule from 2026-03-01 on. -/
def marchForm (interval : Int) : RuleForm where
  recurrenceType := "yearly"
  interval := interval
  startDate := Rule.distant.startDate
  endDate := none
  daysOfWeek := []
  monthDay := none
  monthWeek := none
  monthWeekDay := none

/-- The calendar of `Rule.distant` breaks off, though March 2026 has a grid in the calendar. -/
theorem calendar_distant :
    (∀ settings query, Endpoint.calendar.call settings query
        (some (marchRequest Rule.distant.interval [])) =
      .accepted (.calendar (marchForm Rule.distant.interval) none none none)) ∧
      (marchForm Rule.distant.interval).toDraft.toRule = .ok Rule.distant ∧
      askedMonth Rule.distant none none = ⟨2026, 3⟩ ∧
      ∀ settings today rows,
        ((Call.calendar (marchForm Rule.distant.interval) none none none).answer settings today
          rows).1 = .error (.broken (.calendar .unwritable)) := by
  have valid : (marchForm Rule.distant.interval).toDraft.toRule = .ok Rule.distant :=
    Draft.toRule_ofRule Rule.distant
  have asked : askedMonth Rule.distant none none = ⟨2026, 3⟩ := by decide
  have showable : YearMonth.IsShowable ⟨2026, 3⟩ := by decide
  obtain ⟨lastShown, ends, number⟩ := YearMonth.gridEnd_eq_ok showable
  have within : Rule.distant.IsWithin (some lastShown) Rule.distant.startDate := by
    refine ⟨fun last hard => ?_, fun last own => absurd own (Option.not_mem_none last)⟩
    rw [← Option.some_inj.mp hard, Date.le_def, number]
    decide
  have unreportable : Rule.distant.IsUnreportable .unlimited (some lastShown) :=
    Rule.isUnreportable_iff.mpr ⟨within, rfl, Or.inr ⟨rfl, Rule.not_isWritable_distant⟩⟩
  refine ⟨fun settings query => rfl, valid, asked, fun settings today rows => ?_⟩
  exact calendar_eq_error valid rfl (asked ▸ ends) unreportable settings today rows

theorem everyMarch_interval : (1 : Int) ≤ 1 := Int.le_refl 1

/-- A rule for every first of March from 2026 on. -/
def everyMarch : Rule where
  pattern := .yearly
  interval := 1
  startDate := Rule.distant.startDate
  endDate := none
  one_le_interval := everyMarch_interval
  start_le_end := nofun

/-- The first of March 2027. -/
def secondMarch : Date := ⟨740041, by decide, by decide⟩

/-- The Saturday that the grid of February 2027 ends on. -/
def februaryEnd : Date := ⟨740046, by decide, by decide⟩

/-- The first of March is selected among the last cells of February. -/
theorem calendar_everyMarch :
    (marchForm 1).toDraft.toRule = .ok everyMarch ∧
      ∃ view, ((Call.calendar (marchForm 1) (some 2027) (some 2) none).answer .default
          everyMarch.startDate []).1 = .ok ⟨200, monthDocument view⟩ ∧
        Shows everyMarch .unlimited ⟨2027, 2⟩ view ∧
        ∃ cell ∈ view.weeks.flatten, cell.date = secondMarch ∧ cell.selected = true := by
  have valid : (marchForm 1).toDraft.toRule = .ok everyMarch := Draft.toRule_ofRule everyMarch
  have made : Endpoint.calendar.call .default (Endpoint.queryParts [])
      (some (marchRequest 1 [("year", .int 2027), ("month", .int 2)])) =
        .accepted (.calendar (marchForm 1) (some 2027) (some 2) none) := rfl
  have dates : everyMarch.dates (.dated .unlimited (some februaryEnd)) =
      .ok [everyMarch.startDate, secondMarch] := eq_ok_of_toOption (by decide +kernel)
  obtain ⟨limit, lastShown, accepted, _, _, outcome⟩ :=
    calendar_shows made valid (by decide) (by decide) everyMarch.startDate []
  cases accepted
  have reportable : ¬ everyMarch.IsUnreportable .unlimited (some lastShown) := fun unreportable =>
    unreportable.2.2 (isWritable_of_fits64 (by decide))
  rw [if_neg reportable] at outcome
  obtain ⟨view, answered, shows⟩ := outcome
  have inside : secondMarch.dayNumber ∈ view.weeks.flatten.map (·.date.dayNumber) := by
    rw [shows.days, mem_dayRun]
    decide
  obtain ⟨cell, member, number⟩ := List.mem_map.mp inside
  refine ⟨valid, view, answered, shows, cell, member, Date.ext number, ?_⟩
  rw [shows.selected cell member (some februaryEnd) ?_ (Or.inr (Or.inl (Option.some_ne_none _)))]
  · refine ⟨_, dates, ?_⟩
    rw [Date.ext number]
    exact List.mem_cons_of_mem _ (List.mem_singleton_self secondMarch)
  · intro last hard
    rw [← Option.some_inj.mp hard]
    decide

end Service

end Recurrence
