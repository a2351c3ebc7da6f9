/-
**All causes of failure.**

A bound is refused when its count is below one, and a sequence of dates without any bound has no
end. A sequence whose next date does not come after the last one has stalled.

Operations that can fail in several ways report an `Error`, which is a cause of one of the parts of
the library. A cause may show the value that it refuses; if the value cannot be written, that is
reported in its place (`Error.showing`).
-/
import Recurrence.Calendar.Error
import Recurrence.Rule.Error
import Recurrence.Rule.Form
import Recurrence.Store.Error
import Recurrence.Text.Numeral
import Recurrence.Value.Mismatch

namespace Recurrence

/-! ### Sequences of dates -/

/-- The causes for refusing a sequence of dates. -/
inductive SequenceError where
  /-- The count is below one, or a truth value. -/
  | invalidCount (count : Value)
  /-- There is neither a count nor an end date. -/
  | unbounded
  /-- The next date does not come after the last one, both of them written; the dates so far are
  kept. -/
  | stalled (previous candidate : String) (produced : List Value)
deriving DecidableEq

/-- The wording of each cause. -/
def SequenceError.message : SequenceError → Text
  | invalidCount count => "max_count must be greater than zero, got " ++ count.display
  | unbounded => "Generation needs a max_count or an end date"
  | stalled previous candidate _ =>
    "Next occurrence " ++ candidate ++ " does not advance past " ++ previous

/-! ### All causes -/

/-- A cause of failure. -/
inductive Error where
  | calendar (cause : CalendarError)
  | mismatch (cause : Mismatch)
  | numeral (cause : NumeralError)
  | form (cause : FormError)
  | rule (cause : RuleError)
  | sequence (cause : SequenceError)
  | store (cause : StoreError)
deriving DecidableEq

/-- The cause that shows a refused value, unless the value cannot be shown. -/
def Error.showing (cause : Value → Error) (refused : Value) : Error :=
  if refused.isWritable then cause refused else .numeral .unwritable

/-- The cause for refusing an edit that expects another version than the current one of a draft. -/
def Error.stale (id current : Int) (expected : Value) : Error :=
  .showing (fun expected => .store (.staleVersion id current expected)) expected

/-- An edit of a stale version is refused as such, if the version can be shown. -/
theorem Error.stale_of_isWritable {expected : Value} (writable : expected.isWritable = true)
    (id current : Int) : stale id current expected = .store (.staleVersion id current expected) :=
  if_pos writable

theorem Error.stale_cases (id current : Int) (expected : Value) :
    (expected.isWritable = true ∧
        stale id current expected = .store (.staleVersion id current expected)) ∨
      (expected.isWritable = false ∧ stale id current expected = .numeral .unwritable) := by
  cases writable : expected.isWritable with
  | true => exact .inl ⟨rfl, stale_of_isWritable writable id current⟩
  | false => exact .inr ⟨rfl, if_neg (Bool.eq_false_iff.mp writable)⟩

/-- The wording of a cause. -/
def Error.message : Error → Text
  | calendar cause => cause.message
  | mismatch cause => cause.message
  | numeral cause => cause.message
  | form cause => cause.message
  | rule cause => cause.message
  | sequence cause => cause.message
  | store cause => cause.message

end Recurrence
