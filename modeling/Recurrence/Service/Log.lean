/-
**Log lines.**

While a request is answered, generating dates and changing drafts leave lines in the log.
-/
import Recurrence.Store.Step

namespace Recurrence.Service

/-- How important a log line is. -/
inductive Level where
  | debug
  | info
  | error
deriving DecidableEq

/-- The name of a level. -/
def Level.name : Level → String
  | debug => "DEBUG"
  | info => "INFO"
  | error => "ERROR"

/-- A log line before it is tied to a request. -/
structure LogEntry where
  level : Level
  source : String
  message : Text
deriving DecidableEq

/-- A log line of a request. -/
def LogEntry.line (entry : LogEntry) (requestId : Text) : Text :=
  entry.level.name ++ " [" ++ entry.source ++ "] [req=" ++ requestId ++ "] " ++ entry.message

/-- What is logged when the dates of a rule have been generated. Nothing is logged when the rule
starts past its end. -/
def sequenceLog (rule : Rule) (sequence : Sequence) : List LogEntry :=
  let source := "recurpreview.services.occurrence_generator"
  let count := toString sequence.dates.length
  let limit : LogEntry :=
    { level := .debug, source
      message := "Occurrence generation reached calendar limit last=" ++
        (sequence.dates.getLast?.elim "" Date.iso) ++ " produced=" ++ count }
  let generated : LogEntry :=
    { level := .debug, source
      message := "Occurrences generated type=" ++ rule.kind.name ++ " interval=" ++
        toString rule.interval ++ " start=" ++ rule.startDate.iso ++ " count=" ++ count }
  match sequence.stop with
  | .beforeStart => []
  | .calendarEnd => [limit, generated]
  | .count | .endDate => [generated]

/-- What is logged when a sequence of dates has stalled. -/
def stallLog (previous candidate : String) (produced : List Value) : LogEntry where
  level := .error
  source := "recurpreview.services.bound_policy"
  message := "Occurrence generation stalled previous=" ++ previous ++ " candidate=" ++
    candidate ++ " produced=" ++ toString produced.length

/-- What is logged when a draft has been created or updated. -/
def draftLog (event : String) (record : Record) : LogEntry where
  level := .info
  source := "recurpreview.services.rule_drafts_service"
  message := "Rule draft " ++ event ++ " draft_id=" ++ toString record.id ++ " type=" ++
    record.columns.recurrenceType.plain ++ " version=" ++ toString record.version

end Recurrence.Service
