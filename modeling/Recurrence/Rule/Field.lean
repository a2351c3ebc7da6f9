/-
**The fields of a rule on a form.**

A rule on a form has eight fields, of which each kind of rule fills in its own (`Kind.ownFields`)
beside the interval, the start date and the end date.

* `Field.find?_name`: a field among all of them is known by its name.
-/
import Recurrence.Rule.Basic

namespace Recurrence

/-- The fields of a draft. -/
inductive Field where
  | recurrenceType
  | startDate
  | interval
  | endDate
  | daysOfWeek
  | monthDay
  | monthWeek
  | monthWeekDay
deriving DecidableEq

namespace Field

/-- All fields. -/
def all : List Field :=
  [recurrenceType, startDate, interval, endDate, daysOfWeek, monthDay, monthWeek, monthWeekDay]

/-- The name of a field. -/
def name : Field → String
  | recurrenceType => "recurrence_type"
  | startDate => "start_date"
  | interval => "interval"
  | endDate => "end_date"
  | daysOfWeek => "days_of_week"
  | monthDay => "month_day"
  | monthWeek => "month_week"
  | monthWeekDay => "month_week_day"

/-- The field with a name, among some fields. -/
def find? (fields : List Field) (text : String) : Option Field := fields.find? (·.name == text)

/-- A field among all of them is known by its name. -/
theorem find?_name (field : Field) : find? all field.name = some field := by
  cases field <;> decide

end Field

/-- The fields that a kind of rule has beside interval, start date and end date. -/
def Kind.ownFields : Kind → List Field
  | .daily | .yearly => []
  | .weekly => [.daysOfWeek]
  | .monthlyByDay => [.monthDay]
  | .monthlyByWeekday => [.monthWeek, .monthWeekDay]

end Recurrence
