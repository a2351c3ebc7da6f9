/-
**Dates that are numbered.**

Where every date of a rule is known by its number, the start being number 0, the course of the rule
has these dates at these places, and a bound takes them from number 0 on. It stops at the first
number for which the count is reached already, the date is past an end, or there is no date.

* `Rule.IsNumberedBy`: going on leads from each number to the next one;
* `Rule.IsNumberedBy.getElem?_course`: so the course has the dates at their numbers;
* `Rule.IsNumberedBy.areNumbered_selection`: and a bound takes them in order.
-/
import Recurrence.Proofs.Sequence.Course

namespace Recurrence

namespace Rule

/-! ### Whole intervals -/

/-- Later numbers lie further from the start. -/
theorem mul_interval_le (rule : Rule) {earlier later : Nat} (order : earlier ≤ later) :
    earlier * rule.interval ≤ later * rule.interval :=
  Int.mul_le_mul_of_nonneg_right (by omega) (Int.le_trans (by decide) rule.one_le_interval)

theorem mul_interval_nonneg (rule : Rule) (number : Nat) : 0 ≤ number * rule.interval :=
  Int.mul_nonneg (by omega) (Int.le_trans (by decide) rule.one_le_interval)

theorem succ_mul_interval (rule : Rule) (number : Nat) :
    ((number + 1 : Nat) : Int) * rule.interval = number * rule.interval + rule.interval := by
  rw [Int.natCast_add, Int.natCast_one, Int.add_mul, Int.one_mul]

/-! ### Numbers -/

/-- The dates of a rule are numbered: the start is number 0, no number has two dates, and from the
date with a number the rule goes on to the one with the next number, unless no later number has a
date. -/
structure IsNumberedBy (rule : Rule) (isDate : Nat → Date → Prop) : Prop where
  start : isDate 0 rule.startDate
  unique : ∀ {number : Nat} {first second : Date}, isDate number first → isDate number second →
    first = second
  goesOn : ∀ {number : Nat} {current : Date}, isDate number current →
    (∃ next, rule.next current ((number + 1 : Nat) : Int) = .ok next ∧ current < next ∧
      isDate (number + 1) next) ∨
    ((∃ cause, rule.next current ((number + 1 : Nat) : Int) = .error cause) ∧
      ∀ later : Nat, number < later → ∀ date, ¬ isDate later date)

/-- The dates are those with the numbers from 0 on, and stop at the first number for which the count
is reached already, the date is past the calendar, or it is past an end. -/
structure AreNumbered (rule : Rule) (isDate : Nat → Date → Prop) (pastCalendar : Nat → Prop)
    (maxCount : CountLimit) (hardEnd : Option Date) (dates : List Date) : Prop where
  inOrder : ∀ (number : Nat) (date : Date), dates[number]? = some date → isDate number date
  stopped : ∀ number : Nat, dates.length ≤ number ↔
    ¬ maxCount.Admits (number + 1) ∨ pastCalendar number ∨
      ∃ date, isDate number date ∧ ¬ rule.IsWithin hardEnd date

namespace IsNumberedBy

variable {rule : Rule} {isDate : Nat → Date → Prop} (numbered : rule.IsNumberedBy isDate)
include numbered

/-- From the date with a number on, the course has the later numbers. The induction is on how many
dates later. -/
theorem getElem?_courseFrom (index : Nat) :
    ∀ {number : Nat} {current date : Date}, isDate number current →
      ((rule.courseFrom (number + 1) current)[index]? = some date ↔
        isDate (number + index) date) := by
  induction index with
  | zero =>
    intro number current date here
    rw [getElem?_courseFrom_zero, Option.some_inj, Nat.add_zero]
    exact ⟨fun same => same ▸ here, numbered.unique here⟩
  | succ index ih =>
    intro number current date here
    rcases numbered.goesOn here with ⟨next, found, later, there⟩ | ⟨⟨cause, ended⟩, none⟩
    · have place : number + (index + 1) = number + 1 + index := by omega
      rw [courseFrom_ok found later, List.getElem?_cons_succ, ih there, place]
    · rw [courseFrom_error ended]
      exact ⟨fun found => by simp at found, fun isDate => absurd isDate (none _ (by omega) date)⟩

/-- **The course has the dates at their numbers.** -/
theorem getElem?_course {index : Nat} {date : Date} :
    rule.course[index]? = some date ↔ isDate index date := by
  have course : (rule.courseFrom (0 + 1) rule.startDate)[index]? = some date ↔
      isDate (0 + index) date :=
    numbered.getElem?_courseFrom index numbered.start
  rw [Nat.zero_add index] at course
  exact course

/-- The course has the dates that have a number. -/
theorem mem_course {date : Date} : date ∈ rule.course ↔ ∃ number, isDate number date := by
  simp only [List.mem_iff_getElem?, numbered.getElem?_course]

/-- **A bound takes the numbered dates from the start on.** -/
theorem areNumbered_selection {pastCalendar : Nat → Prop}
    (dated : ∀ number, (∃ date, isDate number date) ↔ ¬ pastCalendar number)
    (maxCount : CountLimit) (hardEnd : Option Date) :
    rule.AreNumbered isDate pastCalendar maxCount hardEnd (rule.selection maxCount hardEnd) where
  inOrder number date found := numbered.getElem?_course.mp (getElem?_selection.mp found).1
  stopped number := by
    have taken (date : Date) : (rule.selection maxCount hardEnd)[number]? = some date ↔
        isDate number date ∧ rule.IsWithin hardEnd date ∧ maxCount.Admits (number + 1) := by
      rw [getElem?_selection, numbered.getElem?_course]
    rw [← List.getElem?_eq_none_iff, Option.eq_none_iff_forall_ne_some]
    constructor
    · intro none
      by_cases past : pastCalendar number
      · exact Or.inr (Or.inl past)
      · obtain ⟨date, isDate⟩ := (dated number).mpr past
        by_cases admits : maxCount.Admits (number + 1)
        · refine Or.inr (Or.inr ⟨date, isDate, fun within => none date ?_⟩)
          exact (taken date).mpr ⟨isDate, within, admits⟩
        · exact Or.inl admits
    · intro stop date found
      obtain ⟨isDate, within, admits⟩ := (taken date).mp found
      rcases stop with reached | past | ⟨other, isDate', pastEnd⟩
      · exact reached admits
      · exact (dated number).mp ⟨date, isDate⟩ past
      · rw [numbered.unique isDate' isDate] at pastEnd
        exact pastEnd within

end IsNumberedBy

end Rule

end Recurrence
