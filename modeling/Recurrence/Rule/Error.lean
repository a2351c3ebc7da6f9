/-
**Why a rule is refused.**

Each cause carries what was wrong. It has a code, the field it is reported at, and a message that
shows the refused value. A value that cannot be shown is no cause for refusing a rule any more: that
it has too many digits is all that is said of it then (`RuleError.showing`).
-/
import Recurrence.Rule.Field
import Recurrence.Value.Display

namespace Recurrence

/-- The name of a field. -/
def Value.ofField (field : Field) : Value := .text field.name

/-- The causes for refusing a rule. -/
inductive RuleError where
  /-- There is no such kind of rule. -/
  | unsupportedKind (kind : Value)
  /-- The interval is not a whole number of at least one. -/
  | invalidInterval (interval : Value)
  /-- No weekday is chosen. -/
  | noWeekdays
  /-- What stands in a field is no weekday. -/
  | invalidWeekday (field : Value) (weekday : Value)
  /-- The day of the month is not a whole number from 1 to 31. -/
  | invalidMonthDay (day : Value)
  /-- There is no such ordinal. -/
  | unsupportedOrdinal (ordinal : Value)
  /-- The start date is no date, or has a time. -/
  | startNoDate (start : Value)
  /-- The end date is no date, or has a time. -/
  | endNoDate (last : Value)
  /-- The end date lies before the start date. -/
  | endBeforeStart (last start : Date)
  /-- What is refused has an integer with too many digits to be shown. -/
  | unwritable
deriving DecidableEq

namespace RuleError

/-- The cause that shows a refused value, unless the value cannot be shown. -/
def showing (cause : Value → RuleError) (refused : Value) : RuleError :=
  if refused.isWritable then cause refused else unwritable

theorem showing_of_isWritable {cause : Value → RuleError} {refused : Value}
    (writable : refused.isWritable = true) : showing cause refused = cause refused :=
  if_pos writable

/-- An integer that fits into a machine word can be shown. -/
theorem showing_int {cause : Value → RuleError} {number : Int} (fits : Fits64 number) :
    showing cause (.int number) = cause (.int number) :=
  showing_of_isWritable (Value.isWritable_int.mpr (isWritable_of_fits64 fits))

theorem showing_of_not_isWritable {cause : Value → RuleError} {refused : Value}
    (unwritable : ¬ refused.isWritable = true) : showing cause refused = .unwritable :=
  if_neg unwritable

/-- The code of each cause. -/
def code : RuleError → String
  | unsupportedKind _ => "UnsupportedRecurrenceType"
  | invalidInterval _ => "InvalidInterval"
  | noWeekdays => "EmptyWeekdaySet"
  | invalidWeekday .. => "InvalidWeekday"
  | invalidMonthDay _ => "InvalidMonthDay"
  | unsupportedOrdinal _ => "InvalidOrdinal"
  | startNoDate _ => "InvalidStartDate"
  | endNoDate _ | endBeforeStart .. => "InvalidDateRange"
  | unwritable => "ValueError"

/-- The field that each cause is reported at: the name of one, unless a weekday was asked for in
the name of something else. What cannot be shown is reported at none. -/
def field : RuleError → Value
  | unsupportedKind _ => .ofField .recurrenceType
  | invalidInterval _ => .ofField .interval
  | noWeekdays => .ofField .daysOfWeek
  | invalidWeekday field _ => field
  | invalidMonthDay _ => .ofField .monthDay
  | unsupportedOrdinal _ => .ofField .monthWeek
  | startNoDate _ => .ofField .startDate
  | endNoDate _ | endBeforeStart .. => .ofField .endDate
  | unwritable => .null

/-- The wording of each cause. -/
def message : RuleError → Text
  | unsupportedKind kind => "Unsupported recurrence_type: " ++ kind.plain
  | invalidInterval interval =>
    "Interval must be a whole number of at least 1, got " ++ interval.display
  | noWeekdays => "Weekly rules need at least one day of the week"
  | invalidWeekday _ weekday =>
    "Weekday must be between 0 (Sunday) and 6 (Saturday), got " ++ weekday.display
  | invalidMonthDay day => "Day of month must be between 1 and 31, got " ++ day.display
  | unsupportedOrdinal ordinal => "Unsupported ordinal: " ++ ordinal.display
  | startNoDate start => "Start date must be a calendar date, got " ++ start.display
  | endNoDate last => "End date must be a calendar date, got " ++ last.display
  | endBeforeStart last start =>
    "End date " ++ last.iso ++ " is before start date " ++ start.iso
  | unwritable => unwritableMessage

end RuleError

end Recurrence
