/-
**Stored drafts.**

A record is a named draft with a number, a version and the columns of its rule. `Columns.ofRule`
writes a rule into the columns, all of them, so nothing of an earlier rule stays behind;
`Columns.toDraft` reads them back as a draft.

* `Columns.overwrite_self`: writing the columns that differ from those last read yields the new ones
  when nothing has changed in between.
-/
import Recurrence.Rule.Validation
import Recurrence.Store.WeekdayText

namespace Recurrence

/-- The columns of a stored draft that hold its rule. The weekdays are text, if there are any. -/
structure Columns where
  recurrenceType : Value
  interval : Value
  startDate : Value
  endDate : Value
  daysOfWeek : Value
  monthDay : Value
  monthWeek : Value
  monthWeekDay : Value
deriving DecidableEq

namespace Columns

/-- Empty columns. -/
def blank : Columns where
  recurrenceType := .null
  interval := .null
  startDate := .null
  endDate := .null
  daysOfWeek := .null
  monthDay := .null
  monthWeek := .null
  monthWeekDay := .null

/-- The columns that hold a rule. -/
def ofRule (rule : Rule) : Columns :=
  let draft := Draft.ofRule rule
  { recurrenceType := draft.recurrenceType
    interval := draft.interval
    startDate := draft.startDate
    endDate := draft.endDate
    daysOfWeek := .ofOption .text (WeekdayText.format rule.pattern.weekdayNumbers)
    monthDay := draft.monthDay
    monthWeek := draft.monthWeek
    monthWeekDay := draft.monthWeekDay }

/-- The draft that columns hold. -/
def toDraft (columns : Columns) : Except Error Draft := do
  let days ← WeekdayText.parseForm columns.daysOfWeek
  return {
    recurrenceType := columns.recurrenceType
    startDate := columns.startDate
    interval := columns.interval
    endDate := columns.endDate
    daysOfWeek := .list (days.map .int)
    monthDay := columns.monthDay
    monthWeek := columns.monthWeek
    monthWeekDay := columns.monthWeekDay }

/-- The rule that columns hold. -/
def toRule (columns : Columns) : Except Error Rule := do
  (← columns.toDraft).toRule

/-- The names of all columns of a record, and of what else a record is known to have. -/
def names : List Text :=
  (["id", "name", "version", "created_at", "updated_at", "metadata", "registry"] ++
    Field.all.map Field.name).map .ofString

/-- Columns of a form with named entries; what is not named is empty. -/
def ofEntries (entries : List (Text × Value)) : Except FormError Columns := do
  if (entryNamed? "self" entries).isSome then throw (.takenName "__init__" "self")
  if let some (name, _) := entries.find? (·.1 ∉ names) then
    throw (.unknownColumn "RuleDraftRecord" name)
  let column (field : Field) : Value := (entryNamed? field.name entries).getD .null
  return {
    recurrenceType := column .recurrenceType
    interval := column .interval
    startDate := column .startDate
    endDate := column .endDate
    daysOfWeek := column .daysOfWeek
    monthDay := column .monthDay
    monthWeek := column .monthWeek
    monthWeekDay := column .monthWeekDay }

/-- One column after an edit: what is stored unless the edit changes what was read. -/
def edited {α : Type} [DecidableEq α] (stored read new : α) : α :=
  if new = read then stored else new

/-- Stored columns after an edit, which writes only what differs from the columns last read. -/
def overwrite (stored read new : Columns) : Columns where
  recurrenceType := edited stored.recurrenceType read.recurrenceType new.recurrenceType
  interval := edited stored.interval read.interval new.interval
  startDate := edited stored.startDate read.startDate new.startDate
  endDate := edited stored.endDate read.endDate new.endDate
  daysOfWeek := edited stored.daysOfWeek read.daysOfWeek new.daysOfWeek
  monthDay := edited stored.monthDay read.monthDay new.monthDay
  monthWeek := edited stored.monthWeek read.monthWeek new.monthWeek
  monthWeekDay := edited stored.monthWeekDay read.monthWeekDay new.monthWeekDay

theorem edited_self {α : Type} [DecidableEq α] (stored new : α) :
    edited stored stored new = new := by
  unfold edited
  split <;> simp_all

/-- An edit of columns read as they are stored yields the new columns. -/
theorem overwrite_self (stored new : Columns) : overwrite stored stored new = new := by
  simp [overwrite, edited_self]

end Columns

/-- A stored draft. -/
structure Record where
  id : Int
  name : String
  version : Int
  columns : Columns
deriving DecidableEq

namespace Record

/-- A record that no rule has been written into. -/
def blank (id : Int) (name : String) : Record where
  id := id
  name := name
  version := 1
  columns := .blank

/-- The record with a rule written into its columns, whatever they held before. -/
def write (record : Record) (rule : Rule) : Record := { record with columns := .ofRule rule }

/-- The draft that a record holds. -/
def toDraft (record : Record) : Except Error Draft := record.columns.toDraft

/-- The rule that a record holds. -/
def toRule (record : Record) : Except Error Rule := record.columns.toRule

end Record

end Recurrence
