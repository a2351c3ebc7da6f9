/-
**Anchors of switched drafts.**

A draft that is switched to a kind gets the pattern that an anchor fits, so that the anchor may stay
among its dates. But they begin with the draft's own start, which need not fit the pattern: a
monthly rule leaves the rest of the start's month out, a weekly rule whose start has no Sunday
before it in the calendar does not get beyond its first week, and a yearly rule keeps to the start's
day of the year. All other anchors are kept.

* `Kind.LeavesOut`: the anchors that are lost;
* `Pattern.fitting_picks`: a monthly pattern picks the anchor that it fits out of its month;
* `Rule.mem_course_fitting`: the course of a rule with the pattern has all other anchors;
* `Draft.switchKind_keeps_iff`: so have the dates of a switched draft.
-/
import Recurrence.Proofs.Calendar.Places
import Recurrence.Proofs.Rule.Switching
import Recurrence.Proofs.Sequence.Monthly
import Recurrence.Proofs.Sequence.Stepped
import Recurrence.Proofs.Sequence.Tightening
import Recurrence.Proofs.Sequence.Weekly

namespace Recurrence

/-! ### Patterns that an anchor fits -/

/-- The anchor is not among the dates from a start on, although the pattern fits it and it does not
come before the start: a weekly rule starts in the week whose Sunday lies before the calendar and
the anchor is in a later one, a monthly rule goes on from the start's month without coming back to
it, and a yearly rule falls on the start's day of the year only. -/
def Kind.LeavesOut (kind : Kind) (start anchor : Date) : Prop :=
  match kind with
  | daily => False
  | weekly => start.week = 0 ∧ anchor.week ≠ 0
  | monthlyByDay | monthlyByWeekday => start < anchor ∧ anchor.yearMonth = start.yearMonth
  | yearly => ¬ (anchor.month = start.month ∧
    anchor.day = if start.IsLeapDay ∧ ¬ IsLeapYear anchor.year then 28 else start.day)

/-- **A monthly pattern picks the anchor that it fits out of its month.** -/
theorem Pattern.fitting_picks {kind : Kind}
    (monthly : kind = .monthlyByDay ∨ kind = .monthlyByWeekday) (anchor : Date) :
    (fitting anchor kind).Picks anchor.yearMonth anchor := by
  rcases monthly with rfl | rfl
  · exact ⟨rfl, (Int.min_eq_left anchor.day_le_lastDay).symm⟩
  · exact ⟨rfl, rfl, anchor.ordinal_marks⟩

namespace Rule

variable {rule : Rule} {anchor : Date}

section Single

variable (single : rule.interval = 1) (after : rule.startDate ≤ anchor)
include single after

/-! ### Anchors on the course of a rule -/

/-- A rule for every day comes to every later date. -/
theorem mem_course_daily (daily : rule.pattern = .daily) : anchor ∈ rule.course := by
  rw [(isNumberedBy_daily daily).mem_course]
  have later := Date.le_def.mp after
  refine ⟨(anchor.dayNumber - rule.startDate.dayNumber).toNat, ?_⟩
  unfold IsDayAfter
  rw [single]
  omega

/-- A rule for the anchor's weekday in every week comes to it, if it gets beyond its first week. -/
theorem mem_course_weekly (weekly : rule.pattern = .weekly (.ofList anchor.weekday [])) :
    anchor ∈ rule.course ↔ ¬ (rule.startDate.week = 0 ∧ anchor.week ≠ 0) := by
  have begun := rule.startDate.one_le
  have later := Date.le_def.mp after
  have due : (WeekdaySet.ofList anchor.weekday []).IsDue rule.interval rule.startDate anchor :=
    ⟨WeekdaySet.mem_ofList.mpr List.mem_cons_self, single ▸ Int.one_dvd _⟩
  unfold course
  rw [mem_courseFrom_weekly weekly]
  unfold Date.week
  constructor
  · rintro (same | ⟨_, _, sameWeek⟩)
    · rw [same]
      exact fun both => both.2 both.1
    · unfold Date.week at sameWeek
      omega
  · intro kept
    by_cases same : anchor = rule.startDate
    · exact Or.inl same
    · refine Or.inr ⟨Date.lt_of_le_of_ne after (Ne.symm same), due, fun early => ?_⟩
      unfold Date.week
      omega

/-- A rule that picks the anchor out of its month comes to it, if that is not a later date of the
start's month. -/
theorem mem_course_monthly (monthly : rule.IsMonthly)
    (picks : rule.pattern.Picks anchor.yearMonth anchor) :
    anchor ∈ rule.course ↔
      ¬ (rule.startDate < anchor ∧ anchor.yearMonth = rule.startDate.yearMonth) := by
  have place (number : Nat) :
      (rule.monthAfter number).index = rule.startDate.yearMonth.index + number := by
    rw [monthAfter, YearMonth.index_shift, single, Int.mul_one]
  rw [(isNumberedBy_monthly monthly).mem_course]
  constructor
  · rintro ⟨number, isDate⟩ ⟨later, sameMonth⟩
    have month := place number
    rw [← isDate.yearMonth_eq, sameMonth] at month
    obtain rfl : number = 0 := by omega
    rw [IsMonthlyDate, if_pos rfl] at isDate
    exact absurd later (isDate ▸ Int.lt_irrefl _)
  · intro kept
    by_cases same : anchor = rule.startDate
    · exact ⟨0, by rw [IsMonthlyDate, if_pos rfl, same]⟩
    · have later : rule.startDate < anchor := Date.lt_of_le_of_ne after (Ne.symm same)
      have order := Date.index_le_of_le after
      have proper := YearMonth.isMonth_yearMonth anchor
      obtain ⟨number, lies⟩ : ∃ number : Nat,
          anchor.yearMonth.index = rule.startDate.yearMonth.index + number :=
        ⟨(anchor.yearMonth.index - rule.startDate.yearMonth.index).toNat, by omega⟩
      have month : anchor.yearMonth = rule.monthAfter number :=
        YearMonth.eq_of_index_eq proper (YearMonth.isMonth_shift ..)
          (lies.trans (place number).symm)
      have beyond : number ≠ 0 := by
        rintro rfl
        refine kept ⟨later, YearMonth.eq_of_index_eq proper (YearMonth.isMonth_yearMonth _) ?_⟩
        omega
      refine ⟨number, ?_⟩
      rw [IsMonthlyDate, if_neg beyond, ← month]
      exact picks

/-- A yearly rule comes to the start's day of the year in every later year. -/
theorem mem_course_yearly (yearly : rule.pattern = .yearly) :
    anchor ∈ rule.course ↔ anchor.month = rule.startDate.month ∧
      anchor.day = if rule.startDate.IsLeapDay ∧ ¬ IsLeapYear anchor.year then 28
        else rule.startDate.day := by
  rw [(isNumberedBy_yearly yearly).mem_course]
  refine ⟨fun ⟨_, _, parts⟩ => parts, fun parts => ?_⟩
  have order := Date.index_le_of_le after
  have months := And.intro anchor.one_le_month rule.startDate.month_le
  refine ⟨(anchor.year - rule.startDate.year).toNat, ?_, parts⟩
  simp only [YearMonth.index, Date.yearMonth] at order
  rw [single]
  omega

/-- **The course of a rule has the anchor that its pattern fits,** unless its kind leaves it out. -/
theorem mem_course_fitting {kind : Kind} (fits : rule.pattern = .fitting anchor kind) :
    anchor ∈ rule.course ↔ ¬ kind.LeavesOut rule.startDate anchor := by
  have own : rule.kind = kind := by
    rw [Rule.kind, fits, Pattern.fitting_kind]
  cases kind with
  | daily => exact iff_of_true (mem_course_daily single after fits) not_false
  | weekly => exact mem_course_weekly single after fits
  | monthlyByDay =>
    exact mem_course_monthly single after (Or.inl own) (fits ▸ Pattern.fitting_picks (Or.inl rfl) _)
  | monthlyByWeekday =>
    exact mem_course_monthly single after (Or.inr own) (fits ▸ Pattern.fitting_picks (Or.inr rfl) _)
  | yearly => exact (mem_course_yearly single after fits).trans Decidable.not_not.symm

end Single

theorem one_le_single : (1 : Int) ≤ 1 := Int.le_refl 1

/-- The rule of a kind with the pattern that an anchor fits, for every day, week, month or year. -/
def anchored (kind : Kind) (start anchor : Date) (last : Option Date)
    (ordered : ∀ final ∈ last, start ≤ final) : Rule where
  pattern := .fitting anchor kind
  interval := 1
  startDate := start
  endDate := last
  one_le_interval := one_le_single
  start_le_end := ordered

end Rule

/-! ### Anchors of switched drafts -/

namespace Draft

variable {draft : Draft} {start anchor : Date} {last : Option Date}

/-- **A draft for every day, week, month or year is switched to the rule that the anchor fits.** -/
theorem toRule_switched (single : draft.interval = .int 1) (begins : draft.startDate = .date start)
    (ends : draft.endDate = .ofOption .date last) (ordered : ∀ final ∈ last, start ≤ final)
    (kind : Kind) :
    (draft.withPattern (.fitting anchor kind)).toRule =
      .ok (.anchored kind start anchor last ordered) := by
  have daily : (draft.set .recurrenceType (.text Kind.daily.name)).Holds
      { Rule.anchored kind start anchor last ordered with pattern := .daily } :=
    ⟨rfl, single, begins, ends, trivial⟩
  rw [toRule_withPattern, toRule_eq_ok_iff.mpr daily]
  rfl

/-- Up to the anchor that rule has dates, and the anchor is one of them exactly if it is not left
out. -/
theorem exists_dates_anchored (kind : Kind) (ordered : ∀ final ∈ last, start ≤ final)
    (after : start ≤ anchor) (upTo : ∀ final ∈ last, anchor ≤ final) :
    ∃ dates, (Rule.anchored kind start anchor last ordered).dates
        (.dated .unlimited (some anchor)) = .ok dates ∧
      (anchor ∈ dates ↔ ¬ kind.LeavesOut start anchor) := by
  have bounded : (Rule.anchored kind start anchor last ordered).IsBounded .unlimited
      (some anchor) := Or.inr (Or.inl nofun)
  have within : (Rule.anchored kind start anchor last ordered).IsWithin (some anchor) anchor := by
    refine ⟨fun final isEnd => ?_, upTo⟩
    obtain rfl := Option.mem_some_iff.mp isEnd
    exact Int.le_refl _
  refine ⟨_, Rule.dates_eq_ok bounded (Rule.not_isUnreportable_of_single rfl _ _), ?_⟩
  rw [Rule.mem_selection_unlimited, and_iff_left within]
  exact Rule.mem_course_fitting rfl after rfl

/-- **A switch keeps the anchor, unless the kind leaves it out.** A draft with an interval of one
can be switched to every kind with any anchor from its start to its end, and made into a rule that
has dates up to the anchor. The anchor is one of them exactly if it is not left out. -/
theorem switchKind_keeps_iff (single : draft.interval = .int 1)
    (begins : draft.startDate = .date start) (ends : draft.endDate = .ofOption .date last)
    (after : start ≤ anchor) (upTo : ∀ final ∈ last, anchor ≤ final) (kind : Kind) :
    ∃ switched rule dates,
      draft.switchKind (.text kind.name) (.date anchor) = .ok switched ∧
      switched.toRule = .ok rule ∧
      rule.dates (.dated .unlimited (some anchor)) = .ok dates ∧
      (anchor ∈ dates ↔ ¬ kind.LeavesOut start anchor) := by
  have ordered : ∀ final ∈ last, start ≤ final :=
    fun final isEnd => Int.le_trans after (upTo final isEnd)
  obtain ⟨dates, produced, kept⟩ := exists_dates_anchored kind ordered after upTo
  exact ⟨_, _, dates, switchKind_eq (.inl (.inl rfl)) kind,
    toRule_switched single begins ends ordered kind, produced, kept⟩

/-- The first of March 2026. -/
def firstOfMarch : Date := Rule.distant.startDate

/-- A draft for every day from then on. -/
def fromMarch : Draft :=
  { blank with recurrenceType := .text Kind.daily.name, startDate := .date firstOfMarch }

/-- The 19 October 2026, the third Monday of its month. -/
def mondayInOctober : Date := ⟨739908, by decide, by decide⟩

/-- Switched to the third Monday of every month, the draft keeps the one in October. -/
theorem switchKind_keeps_october :
    fromMarch.interval = .int 1 ∧ firstOfMarch ≤ mondayInOctober ∧
      ∃ switched rule dates,
        fromMarch.switchKind (.text Kind.monthlyByWeekday.name) (.date mondayInOctober) =
          .ok switched ∧
        switched.toRule = .ok rule ∧
        rule.dates (.dated .unlimited (some mondayInOctober)) = .ok dates ∧
        mondayInOctober ∈ dates := by
  have after : firstOfMarch ≤ mondayInOctober := by decide
  have unended : fromMarch.endDate = .ofOption .date none := rfl
  have upTo : ∀ final ∈ (none : Option Date), mondayInOctober ≤ final := by simp
  have kept : ¬ Kind.monthlyByWeekday.LeavesOut firstOfMarch mondayInOctober := by
    show ¬ (_ ∧ _)
    decide
  obtain ⟨switched, rule, dates, taken, made, produced, kept_iff⟩ :=
    switchKind_keeps_iff rfl rfl unended after upTo .monthlyByWeekday
  exact ⟨rfl, after, switched, rule, dates, taken, made, produced, kept_iff.mpr kept⟩

/-- The 15 March 2026. -/
def midMarch : Date := ⟨739690, by decide, by decide⟩

/-- Switched to the 15th of every month, the draft begins with the first of March all the same, and
goes on in April. -/
theorem switchKind_loses_midMarch :
    fromMarch.interval = .int 1 ∧ fromMarch.startDate = .date firstOfMarch ∧
      fromMarch.endDate = .null ∧ firstOfMarch ≤ midMarch ∧
      ∃ switched rule dates,
        fromMarch.switchKind (.text Kind.monthlyByDay.name) (.date midMarch) = .ok switched ∧
        switched.toRule = .ok rule ∧
        rule.dates (.dated .unlimited (some midMarch)) = .ok dates ∧ midMarch ∉ dates := by
  have after : firstOfMarch ≤ midMarch := by decide
  have ordered : ∀ final ∈ (none : Option Date), firstOfMarch ≤ final := by simp
  have upTo : ∀ final ∈ (none : Option Date), midMarch ≤ final := by simp
  have leftOut : Kind.monthlyByDay.LeavesOut firstOfMarch midMarch := by
    show _ ∧ _
    decide
  obtain ⟨dates, produced, kept_iff⟩ := exists_dates_anchored .monthlyByDay ordered after upTo
  exact ⟨rfl, rfl, rfl, after, _, _, dates, switchKind_eq (.inl (.inl rfl)) .monthlyByDay,
    toRule_switched rfl rfl rfl ordered .monthlyByDay, produced,
    fun member => kept_iff.mp member leftOut⟩

end Draft

end Recurrence
