/-
**Producing dates refuses no rule.**

A rule is checked when it is made. Whatever goes wrong with a bound, or while the dates of a rule
are produced, is no refusal of the rule.

* `IsUnrefused.boundEntries`: reading a bound refuses no rule;
* `IsUnrefused.dates`: nor does producing the dates of a rule.
-/
import Recurrence.Sequence.Dates

namespace Recurrence

/-- A result that is no refusal of a rule. -/
def IsUnrefused {α : Type} (result : Except Error α) : Prop :=
  ∀ cause : RuleError, result ≠ .error (.rule cause)

namespace IsUnrefused

variable {α β : Type}

theorem bind {result : Except Error α} {next : α → Except Error β}
    (first : IsUnrefused result) (later : ∀ content, IsUnrefused (next content)) :
    IsUnrefused (result >>= next) := by
  intro cause refused
  cases result with
  | error other =>
    cases refused
    exact first cause rfl
  | ok content => exact later content cause refused

theorem mismatch (result : Except Mismatch α) : IsUnrefused (result.mapError Error.mismatch) := by
  cases result <;> exact fun _ refused => by cases refused

theorem refusal (count : Value) :
    IsUnrefused (.error (CountLimit.refusal count) : Except Error α) := by
  unfold CountLimit.refusal Error.showing
  split <;> exact fun _ refused => by cases refused

theorem countLimit (count : Value) : IsUnrefused (CountLimit.ofValue count) := by
  have accepted (limit : CountLimit) : IsUnrefused (.ok limit) := fun _ refused => by cases refused
  unfold CountLimit.ofValue
  split
  · exact accepted _
  · split
    · exact accepted _
    · exact refusal _
  · split
    · exact accepted _
    · exact refusal _
  · exact refusal _
  · exact fun _ refused => by cases refused

theorem boundEntries (entries : List (Text × Value)) : IsUnrefused (Bound.ofEntries entries) := by
  unfold Bound.ofEntries
  simp only []
  split
  · exact fun _ refused => by cases refused
  · exact bind (countLimit _) fun _ _ refused => by cases refused

theorem sequenceFrom (rule : Rule) (limits : Limits) (produced : Array Date) (current : Date) :
    IsUnrefused (rule.sequenceFrom limits produced current) := by
  fun_induction rule.sequenceFrom limits produced current with
  | case7 => assumption
  | _ => exact fun _ refused => by cases refused

/-- The dates of a rule are asked for without a check of the rule. -/
theorem dates (rule : Rule) (bound : Bound) : IsUnrefused (rule.dates bound) := by
  have sequence : IsUnrefused (rule.sequence bound) := by
    unfold Rule.sequence Bound.limits
    refine bind (bind (mismatch _) fun last => ?_) fun limits =>
      bind (mismatch _) fun past => ?_
    · split <;> exact fun _ refused => by cases refused
    · split
      · exact fun _ refused => by cases refused
      · exact sequenceFrom rule limits #[] rule.startDate
  intro cause refused
  unfold Rule.dates at refused
  cases produced : rule.sequence bound with
  | error other =>
    rw [produced] at refused
    cases refused
    exact sequence cause produced
  | ok dates =>
    rw [produced] at refused
    cases refused

end IsUnrefused
end Recurrence
