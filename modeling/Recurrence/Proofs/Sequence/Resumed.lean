/-
**Sequences that are taken up again.**

From each of its dates on a rule goes on as the same rule would that starts there. A daily, weekly
or monthly rule only looks at the date that it has come to; a yearly one counts from its start, but
from an anniversary it counts on to the same later ones, unless its start is a 29 February. So a
sequence is taken up again at any of its dates by making that the start, and by counting off what
has been produced.

* `Rule.edit_startDate`: a rule may be given each of its dates as its start;
* `Rule.next_startingAt`: it then goes on as it did;
* `Rule.dates_startingAt`: with a count that admits as many dates less, the dates are the rest;
* `Rule.dates_resumed`: the rest of the dates for a count and for none.
-/
import Recurrence.Proofs.Rule.Edits
import Recurrence.Proofs.Sequence.Stepped
import Recurrence.Proofs.Sequence.Tightening

namespace Recurrence

namespace Rule

variable {rule : Rule} {date : Date} {index : Nat}

/-! ### Another start -/

/-- The rule with another start, which is not after its end. -/
def startingAt (rule : Rule) (date : Date) (upTo : ∀ last ∈ rule.endDate, date ≤ last) : Rule :=
  { rule with startDate := date, start_le_end := upTo }

/-- **A rule may be given a start that is not after its end.** -/
theorem edit_startDate (upTo : ∀ last ∈ rule.endDate, date ≤ last) :
    rule.edit [("start_date", .date date)] = .ok (rule.startingAt date upTo) := by
  have form : (Draft.ofRule rule).setAll [(.startDate, .date date)] =
      Draft.ofRule (rule.startingAt date upTo) := by
    unfold startingAt Draft.ofRule
    cases rule.pattern <;> rfl
  have own : ∀ change ∈ [(Field.startDate, Value.date date)],
      change.1 ∈ rule.kind.form.fields := by
    simp [Kind.form]
  refine (edit_entries own).trans ?_
  rw [form]
  exact ofDraft_ofRule (rule.startingAt date upTo)

/-! ### Going on from there -/

/-- The date has the number, as far as the rule counts: a yearly rule that does not start on a
29 February has come to its anniversary. -/
def Counts (rule : Rule) (index : Nat) (date : Date) : Prop :=
  rule.pattern = .yearly → rule.IsAnniversary index date ∧ ¬ rule.startDate.IsLeapDay

variable (upTo : ∀ last ∈ rule.endDate, date ≤ last)

theorem anniversaryMonth_startingAt (here : rule.IsAnniversary index date) (step : Int) :
    (rule.startingAt date upTo).anniversaryMonth step = rule.anniversaryMonth (index + step) := by
  obtain ⟨year, month, _⟩ := here
  refine YearMonth.ext ?_ month
  show date.year + step * rule.interval = rule.startDate.year + (index + step) * rule.interval
  rw [year, Int.add_mul, Int.add_assoc]

theorem soughtYear_startingAt (counts : rule.Counts index date) (current : Date) (step : Int) :
    (rule.startingAt date upTo).soughtYear current step =
      rule.soughtYear current (index + step) := by
  obtain ⟨pattern⟩ := rule
  cases pattern with
  | yearly => exact congrArg YearMonth.year (anniversaryMonth_startingAt upTo (counts rfl).1 step)
  | daily | weekly weekdays | monthlyByDay day | monthlyByWeekday ordinal weekday => rfl

/-- **From one of its dates on a rule goes on as it would if it started there.** -/
theorem next_startingAt (counts : rule.Counts index date) (current : Date) (step : Int) :
    (rule.startingAt date upTo).next current step = rule.next current (index + step) := by
  obtain ⟨pattern⟩ := rule
  cases pattern with
  | yearly =>
    obtain ⟨here, other⟩ := counts rfl
    have day := here.2.2
    rw [if_neg fun leap => other leap.1] at day
    have month := anniversaryMonth_startingAt upTo here step
    exact (congrArg (YearMonth.onDayOrLast · date.day) month).trans (congrArg _ day)
  | daily | weekly weekdays | monthlyByDay day | monthlyByWeekday ordinal weekday => rfl

/-- What a rule comes to has the number of its place. -/
theorem counts_of_getElem? (found : rule.course[index]? = some date)
    (steady : rule.pattern = .yearly → ¬ rule.startDate.IsLeapDay) : rule.Counts index date :=
  fun yearly => ⟨(isNumberedBy_yearly yearly).getElem?_course.mp found, steady yearly⟩

/-- **The course from one of its dates on is that of the rule that starts there.** -/
theorem course_startingAt (found : rule.course[index]? = some date)
    (counts : rule.Counts index date) :
    (rule.startingAt date upTo).course = rule.course.drop index := by
  have sameNext (current : Date) (step : Nat) : (rule.startingAt date upTo).next current step =
      rule.next current ((index + step : Nat) : Int) := by
    rw [next_startingAt upTo counts, Int.natCast_add]
  unfold course at found ⊢
  rw [drop_courseFrom found, courseFrom_congr sameNext, Nat.add_comm]
  rfl

/-! ### The rest of the dates -/

section Rest

variable {maxCount remaining : CountLimit} {hardEnd : Option Date}
  (less : ∀ number, remaining.Admits (number + 1) ↔ maxCount.Admits (index + number + 1))
include less

theorem selection_startingAt (found : rule.course[index]? = some date)
    (counts : rule.Counts index date) :
    (rule.startingAt date upTo).selection remaining hardEnd =
      (rule.selection maxCount hardEnd).drop index := by
  refine List.ext_getElem? fun number => Option.ext fun later => ?_
  rw [List.getElem?_drop, getElem?_selection, getElem?_selection,
    course_startingAt upTo found counts, List.getElem?_drop, less]
  rfl

/-- If the first year after one of its dates cannot be reported, then neither can the first year
after the start. -/
theorem isUnreportable_of_startingAt (found : rule.course[index]? = some date)
    (counts : rule.Counts index date)
    (unreportable : (rule.startingAt date upTo).IsUnreportable remaining hardEnd) :
    rule.IsUnreportable maxCount hardEnd := by
  obtain ⟨within, goesOn, unwritable⟩ := unreportable
  have another : maxCount.Admits (index + 1 + 1) :=
    (less 1).mp (CountLimit.admits_two.mpr goesOn)
  have begun : rule.startDate ≤ date :=
    rule.le_of_mem_courseFrom 1 rule.startDate date (List.mem_of_getElem? found)
  refine ⟨IsWithin.of_le within begun, another 1 (by omega) (by omega), fun writable => ?_⟩
  have here := (onCourse_start writable).of_getElem? (Nat.le_refl 1) found
  rw [soughtYear_startingAt upTo counts] at unwritable
  have place : ((1 + index : Nat) : Int) = index + 1 := by omega
  exact unwritable (place ▸ here.writable)

/-- **A rule that starts with one of its dates has the rest of them,** if the count admits as many
less as there are before that date. -/
theorem dates_startingAt (reportable : ¬ rule.IsUnreportable maxCount hardEnd)
    (found : rule.course[index]? = some date) (counts : rule.Counts index date)
    (bounded : (rule.startingAt date upTo).IsBounded remaining hardEnd) :
    (rule.startingAt date upTo).dates (.dated remaining hardEnd) =
      .ok ((rule.selection maxCount hardEnd).drop index) := by
  rw [dates_eq_ok bounded fun asks =>
      reportable (isUnreportable_of_startingAt upTo less found counts asks),
    selection_startingAt upTo less found counts]

end Rest

/-- **A sequence is taken up again at any of its dates,** unless it is that of a yearly rule which
starts on a 29 February. The rule can be given the date as its start, and then has the rest of the
dates: up to the same end, and as many less as there are before that date if they are counted. -/
theorem dates_resumed {bound : Bound} {dates : List Date} (produced : rule.dates bound = .ok dates)
    (found : dates[index]? = some date)
    (steady : rule.pattern = .yearly → ¬ rule.startDate.IsLeapDay) :
    ∃ resumed : Rule, rule.edit [("start_date", .date date)] = .ok resumed ∧
      (bound.maxCount = .unlimited → resumed.dates bound = .ok (dates.drop index)) ∧
      ∀ (count : Int) (one_le : 1 ≤ count), bound.maxCount = .whole count one_le →
        ∃ one_le' : 1 ≤ count - index,
          resumed.dates { bound with maxCount := .whole (count - index) one_le' } =
            .ok (dates.drop index) := by
  obtain ⟨maxCount, hardEnd, rfl, bounded⟩ := exists_dated_of_dates produced
  obtain ⟨reportable, rfl⟩ := selection_of_dates produced
  obtain ⟨taken, ⟨_, upTo⟩, admits⟩ := getElem?_selection.mp found
  have counts := counts_of_getElem? taken steady
  refine ⟨rule.startingAt date upTo, edit_startDate upTo, fun unlimited => ?_,
    fun count one_le limit => ?_⟩
  · obtain rfl : maxCount = .unlimited := unlimited
    refine dates_startingAt upTo (fun number => ?_) reportable taken counts bounded
    exact iff_of_true (CountLimit.admits_unlimited _) (CountLimit.admits_unlimited _)
  · obtain rfl : maxCount = .whole count one_le := limit
    rw [CountLimit.admits_whole] at admits
    have one_le' : 1 ≤ count - index := by omega
    refine ⟨one_le', dates_startingAt upTo (fun number => ?_) reportable taken counts
      (isBounded_whole ..)⟩
    rw [CountLimit.admits_whole, CountLimit.admits_whole]
    omega

/-- Every sixth year on the first of March, from 2026 on. -/
def everySixthMarch : Rule := { distant with interval := 6, one_le_interval := by decide }

/-- The first of March 2038 is its date number 2. -/
theorem getElem?_everySixthMarch :
    (everySixthMarch.selection (.whole 5 (by decide)) none)[2]? =
      some ⟨744059, by decide, by decide⟩ := by
  refine getElem?_selection.mpr ⟨?_, isWithin_none rfl _, ?_⟩
  · exact (isNumberedBy_yearly rfl).getElem?_course.mpr ⟨by decide, by decide, by decide⟩
  · exact (CountLimit.admits_whole _).mpr (by decide)

/-- Of its first five dates, three are left from there on. -/
theorem dates_resumed_everySixthMarch :
    ∃ dates resumed,
      everySixthMarch.dates (.dated (.whole 5 (by decide)) none) = .ok dates ∧
      dates[2]? = some ⟨744059, by decide, by decide⟩ ∧
      ¬ everySixthMarch.startDate.IsLeapDay ∧
      everySixthMarch.edit [("start_date", .date ⟨744059, by decide, by decide⟩)] =
        .ok resumed ∧
      resumed.dates (.dated (.whole 3 (by decide)) none) = .ok (dates.drop 2) := by
  have reportable : ¬ everySixthMarch.IsUnreportable (.whole 5 (by decide)) none :=
    fun unreportable => unreportable.2.2 (isWritable_of_fits64 (by decide))
  have produced := dates_eq_ok (everySixthMarch.isBounded_whole _ none) reportable
  have steady : ¬ everySixthMarch.startDate.IsLeapDay := by decide
  obtain ⟨resumed, edited, _, counted⟩ :=
    dates_resumed produced getElem?_everySixthMarch fun _ => steady
  obtain ⟨_, rest⟩ := counted 5 (by decide) rfl
  exact ⟨_, resumed, produced, getElem?_everySixthMarch, steady, edited, rest⟩

end Rule

end Recurrence
