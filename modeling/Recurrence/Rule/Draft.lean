/-
**Drafts of rules.**

A draft is a rule as it stands on a form: every field may hold anything. `Draft.ofRule` writes a
rule down, and `Draft.withPattern` replaces the fields that make up the pattern.

* `Draft.get_set_self`, `Draft.get_set_of_ne`: setting a field changes that field only.
-/
import Recurrence.Rule.Field
import Recurrence.Value.Basic

namespace Recurrence

/-- A rule as it stands on a form. -/
structure Draft where
  recurrenceType : Value
  startDate : Value
  interval : Value
  endDate : Value
  daysOfWeek : Value
  monthDay : Value
  monthWeek : Value
  monthWeekDay : Value
deriving DecidableEq

namespace Draft

/-- A form that nothing has been filled in on: every first, no end, no weekdays. -/
def blank : Draft where
  recurrenceType := .null
  startDate := .null
  interval := .int 1
  endDate := .null
  daysOfWeek := .list []
  monthDay := .null
  monthWeek := .null
  monthWeekDay := .null

/-- What a field holds. -/
def get (draft : Draft) : Field → Value
  | .recurrenceType => draft.recurrenceType
  | .startDate => draft.startDate
  | .interval => draft.interval
  | .endDate => draft.endDate
  | .daysOfWeek => draft.daysOfWeek
  | .monthDay => draft.monthDay
  | .monthWeek => draft.monthWeek
  | .monthWeekDay => draft.monthWeekDay

/-- The draft with a field filled in anew. -/
def set (draft : Draft) (field : Field) (value : Value) : Draft :=
  match field with
  | .recurrenceType => { draft with recurrenceType := value }
  | .startDate => { draft with startDate := value }
  | .interval => { draft with interval := value }
  | .endDate => { draft with endDate := value }
  | .daysOfWeek => { draft with daysOfWeek := value }
  | .monthDay => { draft with monthDay := value }
  | .monthWeek => { draft with monthWeek := value }
  | .monthWeekDay => { draft with monthWeekDay := value }

/-- A field holds what it was set to. -/
@[simp]
theorem get_set_self (draft : Draft) (field : Field) (value : Value) :
    (draft.set field value).get field = value := by
  cases field <;> rfl

/-- Setting a field leaves the others alone. -/
theorem get_set_of_ne (draft : Draft) {field other : Field} (value : Value)
    (different : other ≠ field) : (draft.set field value).get other = draft.get other := by
  cases field <;> cases other <;> simp_all [get, set]

/-- The draft with several fields filled in anew, one after the other. -/
def setAll (draft : Draft) (changes : List (Field × Value)) : Draft :=
  changes.foldl (fun draft change => draft.set change.1 change.2) draft

end Draft

/-! ### Rules on forms -/

/-- A weekday as a number. -/
def Value.ofWeekday (weekday : Weekday) : Value := .int weekday.val

/-- The numbers of the chosen weekdays of a pattern, if it has any. -/
def Pattern.weekdayNumbers : Pattern → List Int
  | weekly weekdays => weekdays.toList.map fun weekday => weekday.val
  | daily | monthlyByDay _ | monthlyByWeekday .. | yearly => []

/-- The fields that make up a pattern. -/
def Pattern.fields : Pattern → List (Field × Value)
  | daily | yearly => []
  | weekly weekdays => [(.daysOfWeek, .list (weekdays.toList.map .ofWeekday))]
  | monthlyByDay day => [(.monthDay, .int day.number)]
  | monthlyByWeekday ordinal weekday =>
    [(.monthWeek, .text ordinal.name), (.monthWeekDay, .ofWeekday weekday)]

namespace Draft

/-- The draft with the kind and the fields of a pattern, the fields of other kinds being emptied. -/
def withPattern (draft : Draft) (pattern : Pattern) : Draft :=
  setAll { draft with
    recurrenceType := .text pattern.kind.name
    daysOfWeek := blank.daysOfWeek
    monthDay := blank.monthDay
    monthWeek := blank.monthWeek
    monthWeekDay := blank.monthWeekDay } pattern.fields

/-- A rule written down on a form. -/
def ofRule (rule : Rule) : Draft :=
  withPattern { blank with
    interval := .int rule.interval
    startDate := .date rule.startDate
    endDate := .ofOption .date rule.endDate } rule.pattern

end Draft

end Recurrence
