/-
**What comes out of a rule and a bound.**

A rule with a bound that limits it produces an increasing list of dates, no longer than the count,
none of them past an end, beginning with the start unless that is past an end itself. It never
stalls, and the end of the calendar only ends the list. The one exception is an interval of so many
digits that the first year to look in cannot be reported as lying past the calendar.

* `Rule.Produces`: what the list is like;
* `Rule.isUnreportable_iff`: the rules and bounds with that exception;
* `Rule.not_isUnreportable_of_daily_or_weekly`, `Rule.not_isUnreportable_of_isMonthly`: a daily or
  weekly rule is none, and neither is a monthly one whose interval can be written;
* `Rule.not_isUnreportable_of_single`: no rule with an interval of one is one of them;
* `Rule.dates_outcome`: the list, the missing bound, and the year that cannot be reported.
-/
import Recurrence.Proofs.Sequence.Course

namespace Recurrence

namespace Rule

/-! ### The list of dates -/

/-- What the dates of a rule under a bound are like. -/
structure Produces (rule : Rule) (maxCount : CountLimit) (hardEnd : Option Date)
    (dates : List Date) : Prop where
  increasing : dates.Pairwise (· < ·)
  counted : ∀ (count : Int) (one_le : 1 ≤ count), maxCount = .whole count one_le →
    (dates.length : Int) ≤ count
  within : ∀ date ∈ dates, rule.IsWithin hardEnd date
  empty_iff : dates = [] ↔ ¬ rule.IsWithin hardEnd rule.startDate
  begins : dates ≠ [] → dates.head? = some rule.startDate

/-- The dates begin with the start exactly when the start is within the ends. -/
theorem head?_selection {rule : Rule} {maxCount : CountLimit} {hardEnd : Option Date}
    {date : Date} :
    (rule.selection maxCount hardEnd).head? = some date ↔
      date = rule.startDate ∧ rule.IsWithin hardEnd rule.startDate := by
  rw [List.head?_eq_getElem?, getElem?_selection, getElem?_course_zero, Option.some_inj]
  refine ⟨fun ⟨same, within, _⟩ => ⟨same.symm, ?_⟩, fun ⟨same, within⟩ => ⟨same.symm, ?_, ?_⟩⟩
  · rw [same]
    exact within
  · rw [same]
    exact within
  · exact maxCount.admits_one

/-- **What a bound takes of the course of a rule is as it should be.** -/
theorem produces_selection (rule : Rule) (maxCount : CountLimit) (hardEnd : Option Date) :
    rule.Produces maxCount hardEnd (rule.selection maxCount hardEnd) where
  increasing := rule.pairwise_course.sublist (rule.selection_sublist maxCount hardEnd)
  counted count one_le limit := by
    unfold selection
    rw [limit, CountLimit.cut_whole, List.length_take]
    omega
  within date member := by
    obtain ⟨index, found⟩ := List.mem_iff_getElem?.mp member
    exact (getElem?_selection.mp found).2.1
  empty_iff := by
    rw [← List.head?_eq_none_iff, Option.eq_none_iff_forall_ne_some]
    refine ⟨fun none within => none rule.startDate (head?_selection.mpr ⟨rfl, within⟩), ?_⟩
    intro past date first
    exact past (head?_selection.mp first).2
  begins nonempty := by
    obtain ⟨first, others, shape⟩ := List.exists_cons_of_ne_nil nonempty
    have head : (rule.selection maxCount hardEnd).head? = some first := by
      rw [shape]
      rfl
    rw [head, (head?_selection.mp head).1]

/-! ### Years that cannot be reported -/

/-- The years that cannot be reported are those of the month an interval after the start for a
monthly rule, and those of the first anniversary for a yearly one. -/
theorem isUnreportable_iff {rule : Rule} {maxCount : CountLimit} {hardEnd : Option Date} :
    rule.IsUnreportable maxCount hardEnd ↔
      rule.IsWithin hardEnd rule.startDate ∧ maxCount.isReached 1 = false ∧
        ((rule.IsMonthly ∧
            ¬ IsWritable (rule.startDate.yearMonth.shift rule.interval).year) ∨
          (rule.pattern = .yearly ∧ ¬ IsWritable (rule.startDate.year + rule.interval))) := by
  refine and_congr_right fun _ => and_congr_right fun _ => ?_
  have start := rule.startDate.isWritable_year
  rcases rule.daily_or_weekly_or_monthly_or_yearly with
    daily | ⟨weekdays, weekly⟩ | monthly | yearly
  · simp [soughtYear, IsMonthly, kind, daily, Pattern.kind, start]
  · simp [soughtYear, IsMonthly, kind, weekly, Pattern.kind, start]
  · have notYearly : rule.pattern ≠ .yearly := fun yearly => not_isMonthly_of_yearly yearly monthly
    simp [soughtYear_monthly monthly, monthly, notYearly]
  · simp [soughtYear_yearly yearly, not_isMonthly_of_yearly yearly, yearly, anniversaryMonth]

/-- A daily or weekly rule looks for no first year after the start. -/
theorem not_isUnreportable_of_daily_or_weekly {rule : Rule}
    (days : rule.pattern = .daily ∨ ∃ weekdays, rule.pattern = .weekly weekdays)
    (maxCount : CountLimit) (hardEnd : Option Date) : ¬ rule.IsUnreportable maxCount hardEnd := by
  intro unreportable
  refine unreportable.2.2 ?_
  unfold soughtYear
  rcases days with daily | ⟨weekdays, weekly⟩
  · rw [daily]
    exact rule.startDate.isWritable_year
  · rw [weekly]
    exact rule.startDate.isWritable_year

/-- **An interval that can be written leads a monthly rule to no year that cannot be reported.** -/
theorem not_isUnreportable_of_isMonthly {rule : Rule} (monthly : rule.IsMonthly)
    (writable : IsWritable rule.interval) (maxCount : CountLimit) (hardEnd : Option Date) :
    ¬ rule.IsUnreportable maxCount hardEnd := by
  intro unreportable
  obtain ⟨_, _, ⟨_, unwritable⟩ | ⟨yearly, _⟩⟩ := isUnreportable_iff.mp unreportable
  · have bounds := rule.startDate.index_yearMonth_bounds
    have positive := rule.one_le_interval
    have large := word_le_pow_maxDigits
    refine unwritable ?_
    unfold IsWritable at writable ⊢
    simp only [YearMonth.shift, YearMonth.ofIndex]
    generalize Nat.pow 10 maxDigits = limit at writable large ⊢
    omega
  · exact not_isMonthly_of_yearly yearly monthly

/-- With an interval of one no year is looked for that cannot be reported. -/
theorem not_isUnreportable_of_single {rule : Rule} (single : rule.interval = 1)
    (maxCount : CountLimit) (hardEnd : Option Date) : ¬ rule.IsUnreportable maxCount hardEnd := by
  intro unreportable
  obtain ⟨_, _, ⟨monthly, _⟩ | ⟨_, unwritable⟩⟩ := isUnreportable_iff.mp unreportable
  · have writable : IsWritable rule.interval := by
      rw [single]
      exact isWritable_of_fits64 (by decide)
    exact not_isUnreportable_of_isMonthly monthly writable maxCount hardEnd unreportable
  · have begun := rule.startDate.one_le_year
    have ended := rule.startDate.year_le
    rw [single] at unwritable
    exact unwritable (isWritable_of_fits64 ⟨by omega, by omega⟩)

/-! ### The outcome -/

/-- **A rule with a bound produces its dates, unless nothing limits them or the first year to look
in cannot be reported.** -/
theorem dates_outcome (rule : Rule) (maxCount : CountLimit) (hardEnd : Option Date) :
    if rule.IsBounded maxCount hardEnd then
      if rule.IsUnreportable maxCount hardEnd then
        rule.dates (.dated maxCount hardEnd) = .error (.calendar .unwritable)
      else
        ∃ dates, rule.dates (.dated maxCount hardEnd) = .ok dates ∧
          rule.Produces maxCount hardEnd dates
    else rule.dates (.dated maxCount hardEnd) = .error (.sequence .unbounded) := by
  by_cases bounded : rule.IsBounded maxCount hardEnd
  · rw [if_pos bounded, dates_eq bounded]
    by_cases unreportable : rule.IsUnreportable maxCount hardEnd
    · rw [if_pos unreportable, if_pos unreportable]
    · rw [if_neg unreportable, if_neg unreportable]
      exact ⟨_, rfl, rule.produces_selection maxCount hardEnd⟩
  · rw [if_neg bounded]
    exact dates_unbounded bounded

/-- Where the dates of a rule can be had, they are what the sequence has produced. -/
theorem exists_sequence_of_dates {rule : Rule} {bound : Bound} {dates : List Date}
    (produced : rule.dates bound = .ok dates) :
    ∃ sequence, rule.sequence bound = .ok sequence ∧ sequence.dates = dates := by
  unfold Rule.dates at produced
  cases sequence : rule.sequence bound with
  | error cause =>
    rw [sequence] at produced
    cases produced
  | ok sequence =>
    rw [sequence] at produced
    cases produced
    exact ⟨_, rfl, rfl⟩

theorem sequence_of_dates_error {rule : Rule} {bound : Bound} {cause : Error}
    (failed : rule.dates bound = .error cause) : rule.sequence bound = .error cause := by
  unfold Rule.dates at failed
  cases sequence : rule.sequence bound with
  | error other =>
    rw [sequence] at failed
    cases failed
    rfl
  | ok sequence =>
    rw [sequence] at failed
    cases failed

/-- A yearly rule with an interval of 4300 digits. -/
def distant : Rule where
  pattern := .yearly
  interval := (Nat.pow 10 maxDigits : Int) - 1
  startDate := ⟨739676, by decide, by decide⟩
  endDate := none
  one_le_interval := by
    have large := word_le_pow_maxDigits
    omega
  start_le_end := nofun

theorem isWritable_interval_distant : IsWritable distant.interval := by
  have large := word_le_pow_maxDigits
  have length : distant.interval = (Nat.pow 10 maxDigits : Int) - 1 := rfl
  unfold IsWritable
  rw [length]
  omega

/-- The year of its second date has a digit too many. -/
theorem not_isWritable_distant : ¬ IsWritable (distant.startDate.year + distant.interval) := by
  have begun := distant.startDate.one_le_year
  have length : distant.interval = (Nat.pow 10 maxDigits : Int) - 1 := rfl
  unfold IsWritable
  rw [length]
  omega

/-- Its second date is asked for by a count of two. -/
theorem isUnreportable_distant : distant.IsUnreportable (.whole 2 (by decide)) none :=
  isUnreportable_iff.mpr ⟨⟨nofun, nofun⟩, by decide, Or.inr ⟨rfl, not_isWritable_distant⟩⟩

/-- Its first two dates cannot be had, since the year of the second has too many digits. -/
theorem dates_distant :
    distant.IsBounded (.whole 2 (by decide)) none ∧
      distant.dates (.dated (.whole 2 (by decide)) none) = .error (.calendar .unwritable) := by
  have bounded : distant.IsBounded (.whole 2 (by decide)) none := Or.inl nofun
  have unreportable : distant.IsUnreportable (.whole 2 (by decide)) none :=
    isUnreportable_iff.mpr ⟨⟨nofun, nofun⟩, by decide, Or.inr ⟨rfl, not_isWritable_distant⟩⟩
  rw [dates_eq bounded, if_pos unreportable]
  exact ⟨bounded, rfl⟩

end Rule

end Recurrence
