/-
**Bounds of a sequence of dates.**

A bound limits how many dates are produced and how late they may lie. Together with the end date of
a rule it becomes `Limits`, of which at least one is needed. An end date on a form may hold
anything; that it is no date shows when it is compared.

* `Limits.isPastEnd_date`: a date is past an end that is a date exactly when it is later.
-/
import Recurrence.Error
import Recurrence.Value.Order

namespace Recurrence

/-- The largest number of dates. A fraction admits as many as the least whole number that is not
below it; what is not a number is never reached. -/
inductive CountLimit where
  | unlimited
  | whole (count : Int) (one_le : 1 ≤ count)
  | fraction (count : Double) (one_le : count.lessThanInt 1 = false)

namespace CountLimit

/-- The cause for refusing a count, which shows the count. -/
def refusal (count : Value) : Error := .showing (fun count => .sequence (.invalidCount count)) count

/-- A count is missing, or a number that is not below one. -/
def ofValue : Value → Except Error CountLimit
  | .null => .ok .unlimited
  | .int count =>
    if valid : 1 ≤ count then .ok (.whole count valid) else .error (refusal (.int count))
  | .double count =>
    if valid : count.lessThanInt 1 = false then .ok (.fraction count valid)
    else .error (refusal (.double count))
  | .bool count => .error (refusal (.bool count))
  | other => .error (.mismatch (.notOrdered .less other.typeName "int"))

/-- A count as it stands on a form. -/
def toValue : CountLimit → Value
  | unlimited => .null
  | whole count _ => .int count
  | fraction count _ => .double count

/-- A limit is known by its form. -/
theorem toValue_inj {limit other : CountLimit} : limit.toValue = other.toValue ↔ limit = other := by
  cases limit <;> cases other <;> simp [toValue]

instance : DecidableEq CountLimit := fun _ _ => decidable_of_iff _ toValue_inj

/-- Whether as many dates have been produced as the limit admits. -/
def isReached (limit : CountLimit) (produced : Int) : Bool :=
  match limit with
  | unlimited => false
  | whole count _ => count ≤ produced
  | fraction count _ => !(count.isNotANumber || Double.intLess produced count)

/-- Whether a number on a form is as large as the limit. -/
def isReachedBy (limit : CountLimit) (produced : Value) : Except Mismatch Bool :=
  match limit with
  | unlimited => .ok false
  | limit => produced.compare .atLeast limit.toValue

end CountLimit

/-- What limits a sequence of dates, beside the end date of its rule. -/
structure Bound where
  maxCount : CountLimit
  hardEndDate : Value
deriving DecidableEq

/-- The bound that named entries describe. -/
def Bound.ofEntries (entries : List (Text × Value)) : Except Error Bound := do
  let names : List Text := ["max_count", "hard_end_date"]
  if let some (name, _) := entries.find? (·.1 ∉ names) then
    throw (.form (.ofUnknown "Bound" name))
  let maxCount ← CountLimit.ofValue ((entryNamed? "max_count" entries).getD .null)
  return { maxCount, hardEndDate := (entryNamed? "hard_end_date" entries).getD .null }

/-- What limits the sequence of dates of a rule. -/
structure Limits where
  maxCount : CountLimit
  endDate : Value
deriving DecidableEq

/-- The earlier of two end dates, or the only one. -/
def earlierEnd (hardEnd ruleEnd : Value) : Except Mismatch Value :=
  match hardEnd, ruleEnd with
  | .null, ruleEnd => .ok ruleEnd
  | hardEnd, .null => .ok hardEnd
  | hardEnd, ruleEnd => do
    return if ← Value.compare .less ruleEnd hardEnd then ruleEnd else hardEnd

/-- The limits of a bound and of a rule's end date. -/
def Bound.limits (bound : Bound) (ruleEnd : Value) : Except Error Limits := do
  let endDate ← (earlierEnd bound.hardEndDate ruleEnd).mapError .mismatch
  if bound.maxCount = .unlimited ∧ endDate = .null then throw (.sequence .unbounded)
  return { maxCount := bound.maxCount, endDate }

namespace Limits

/-- Whether a candidate lies past the end date. -/
def isPastEnd (limits : Limits) (candidate : Value) : Except Mismatch Bool :=
  match limits.endDate with
  | .null => .ok false
  | endDate => Value.compare .greater candidate endDate

/-- A date is past an end that is a date exactly when it is later. -/
theorem isPastEnd_date (maxCount : CountLimit) (endDate candidate : Date) :
    isPastEnd ⟨maxCount, .date endDate⟩ (.date candidate) = .ok (decide (endDate < candidate)) :=
  Value.compare_greater_date candidate endDate

end Limits

end Recurrence
