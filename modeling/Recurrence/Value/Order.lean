/-
**The order of values.**

Numbers are ordered by value, texts by their code points, dates and dates with a time each among
themselves. Lists are ordered by their first items that are not equivalent, and a list that only
continues another comes after it. Nothing else has an order.

* `Value.equivalent_int`: integers are equivalent only to themselves;
* `Value.compare_greater_date`, `Value.compare_less_date`: dates are ordered by their numbers.
-/
import Recurrence.Value.Mismatch

namespace Recurrence.Value

/-! ### Equivalence -/

/-- Whether two values are equivalent as items of lists: numbers by value, whatever their type, and
objects without regard to the order of their entries. -/
def equivalent : Value → Value → Bool
  | null, null => true
  | double .notANumber, double .notANumber => true
  | bool first, second => second.number?.any (Number.equal (.truth first))
  | int first, second => second.number?.any (Number.equal (.int first))
  | double first, second => second.number?.any (Number.equal (.double first))
  | text first, text second => first == second
  | date first, date second => first == second
  | dateTime first, dateTime second => first == second
  | list first, list second => equivalentItems first second
  | object first, object second => first.length == second.length && containedIn second first
  | _, _ => false
where
  /-- Whether two lists have equivalent items. -/
  equivalentItems : List Value → List Value → Bool
    | [], [] => true
    | first :: firsts, second :: seconds =>
      first.equivalent second && equivalentItems firsts seconds
    | _, _ => false
  /-- Whether entries are among those of another object, with equivalent contents. -/
  containedIn (others : List (Text × Value)) : List (Text × Value) → Bool
    | [] => true
    | (name, first) :: firsts =>
      (match others.lookup name with
        | some second => first.equivalent second
        | none => false) && containedIn others firsts

/-- Integers are equivalent only to themselves. -/
theorem equivalent_int {first second : Int} :
    (int first).equivalent (int second) = true ↔ first = second := by
  simp only [equivalent, number?, Option.any_some, Number.equal, Number.isNotANumber,
    Number.less_int, Bool.and_eq_true, Bool.not_eq_true', decide_eq_false_iff_not, true_and]
  omega

/-! ### Comparison -/

/-- Compares two values. -/
def compare (comparison : Comparison) (first second : Value) : Except Mismatch Bool :=
  match first, second with
  | text first, text second => .ok (comparison.holds Text.less (· == ·) first second)
  | date first, date second => .ok (comparison.holds (fun a b => a < b) (· == ·) first second)
  | dateTime first, dateTime second =>
    .ok (comparison.holds (fun a b => a < b) (· == ·) first.instant second.instant)
  | date _, dateTime _ | dateTime _, date _ => .error .timeAgainstDate
  | list first, list second => compareItems first second
  | first, second =>
    match first.number?, second.number? with
    | some firstNumber, some secondNumber =>
      .ok (comparison.holds Number.less Number.equal firstNumber secondNumber)
    | _, _ => .error (.notOrdered comparison first.typeName second.typeName)
where
  /-- Compares two lists. -/
  compareItems : List Value → List Value → Except Mismatch Bool
    | first :: firsts, second :: seconds =>
      if first.equivalent second then compareItems firsts seconds
      else compare comparison first second
    | firsts, seconds =>
      .ok (comparison.holds (fun a b => a < b) (· == ·) firsts.length seconds.length)

/-- Dates are ordered by their numbers. -/
theorem compare_greater_date (first second : Date) :
    compare .greater (date first) (date second) = .ok (decide (second < first)) := by
  simp [compare, Comparison.holds]

theorem compare_less_date (first second : Date) :
    compare .less (date first) (date second) = .ok (decide (first < second)) := by
  simp [compare, Comparison.holds]

end Recurrence.Value
