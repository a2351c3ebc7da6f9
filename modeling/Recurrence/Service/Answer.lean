/-
**How the service answers calls.**

Every call is answered in a session of its own, which remembers nothing from earlier calls. What
goes wrong in a foreseen way becomes an answer with a status and a detail; anything else breaks the
call off. `Call.answer` gives the answer, the log lines and the rows afterwards.
-/
import Recurrence.MonthForm
import Recurrence.Service.Call
import Recurrence.Service.Log

namespace Recurrence.Service

/-! ### Answers -/

/-- Why a call has no regular answer. -/
inductive Failure where
  /-- Something foreseen went wrong. -/
  | refused (status : Nat) (detail : Value)
  /-- Something unforeseen went wrong. -/
  | broken (cause : Error)
deriving DecidableEq

/-- A regular answer. -/
structure Success where
  status : Nat
  document : Value
deriving DecidableEq

/-- The store and the log while a call is answered. -/
structure Progress where
  store : Store
  log : List LogEntry

/-- Answering a call, or a part of it. -/
abbrev Handler (α : Type) := ExceptT Failure (StateM Progress) α

/-- The name of the session of a call. -/
def session : Text := "call"

/-- Adds lines to the log. -/
def note (entries : List LogEntry) : Handler Unit :=
  modify fun progress => { progress with log := progress.log ++ entries }

/-- Asks the store for something. -/
def ask {α : Type} (question : Store → Store.Answer α) : Handler (Except Error α) :=
  modifyGet fun progress =>
    let (answer, store) := question progress.store
    (answer, { progress with store })

/-! ### Failures -/

/-- How a refused rule is answered. What cannot be shown is not foreseen. -/
def refusedRule (cause : RuleError) : Failure :=
  match cause with
  | .unwritable => .broken (.rule .unwritable)
  | cause => .refused 400 (.object [("error", .text cause.code), ("field", cause.field),
    ("message", .text cause.message)])

/-- How a failed access to the store is answered. -/
def refusedAccess (cause : StoreError) : Failure :=
  match cause with
  | .notFound _ => .refused 404 (.text cause.message)
  | .staleVersion .. | .modifiedConcurrently _ => .refused 409 (.text cause.message)
  | .numberTooWide | .notEncodable .. => .broken (.store cause)

/-- The causes that an endpoint foresees. -/
structure Foreseen where
  rules : Bool
  access : Bool

/-- Goes on with a result. Causes that the endpoint foresees are answered; others break it off. -/
def settle {α : Type} (foreseen : Foreseen) : Except Error α → Handler α
  | .ok content => pure content
  | .error (.rule cause) =>
    throw (if foreseen.rules then refusedRule cause else .broken (.rule cause))
  | .error (.store cause) =>
    throw (if foreseen.access then refusedAccess cause else .broken (.store cause))
  | .error cause => throw (.broken cause)

/-- Refused rules are foreseen. -/
def refusingRules : Foreseen := ⟨true, false⟩

/-- Failed accesses to the store are foreseen. -/
def refusingAccess : Foreseen := ⟨false, true⟩

/-- Refused rules and failed accesses are foreseen. -/
def refusingBoth : Foreseen := ⟨true, true⟩

/-! ### Documents -/

/-- A date as text. -/
def writtenDate (date : Date) : Value := .text date.iso

/-- A field of a draft with its dates as text. -/
def writtenField : Value → Value
  | .date date => writtenDate date
  | other => other

/-- A draft as a document. -/
def draftDocument (draft : Draft) : Value :=
  .object ([Field.recurrenceType, .interval, .startDate, .endDate, .daysOfWeek, .monthDay,
    .monthWeek, .monthWeekDay].map fun field =>
      (Text.ofString field.name, writtenField (draft.get field)))

/-- A stored draft as a document. -/
def recordDocument (record : Record) : Except Error Value := do
  let draft ← record.toDraft
  return .object [("id", .int record.id), ("name", .text record.name),
    ("version", .int record.version), ("rule", draftDocument draft)]

/-- The dates of a rule as a document. -/
def datesDocument (dates : List Date) : Value := .list (dates.map writtenDate)

/-- A month as a document. -/
def monthDocument (view : MonthView) : Value :=
  let cell (cell : Cell) : Value := .object [("date", writtenDate cell.date),
    ("in_month", .bool cell.inMonth), ("selected", .bool cell.selected)]
  .object [("year", .int view.month.year), ("month", .int view.month.month),
    ("selected_count", .int view.count),
    ("weeks", .list (view.weeks.map fun week => .list (week.map cell)))]

/-! ### Generating dates -/

/-- The bound of a preview. Without a count it has the greatest count if there is an end date, and
else the default count. -/
def previewBound (settings : Settings) (rule : Rule) (maxCount : Option Int)
    (hardEndDate : Option Date) : Except Error Bound := do
  let hasEnd := hardEndDate.isSome || rule.endDate.isSome
  let count := maxCount.getD
    (if hasEnd then settings.maxPreviewCount else settings.defaultPreviewCount)
  return ⟨← CountLimit.ofValue (.int count), .ofOption .date hardEndDate⟩

/-- The dates of a rule under a bound, with a note in the log. A stalled sequence is answered with
the dates so far. -/
def generated (rule : Rule) (bound : Bound) : Handler (List Date) := do
  match rule.sequence bound with
  | .ok sequence =>
    note (sequenceLog rule sequence)
    return sequence.dates
  | .error (.sequence (.stalled previous candidate produced)) =>
    note [stallLog previous candidate produced]
    throw (.refused 500 (.object [("error", .text "NonProgressingSequence"),
      ("message", .text (SequenceError.stalled previous candidate produced).message),
      ("occurrences", .list (produced.map writtenField))]))
  | .error cause => throw (.broken cause)

/-! ### Stored drafts -/

/-- Answers with a draft that has been written, with a note in the log. -/
def writtenDraft (status : Nat) (event : String) (question : Store → Store.Answer Record) :
    Handler Success := do
  let record ← settle refusingBoth (← ask question)
  note [draftLog event record]
  return ⟨status, ← settle refusingRules (recordDocument record)⟩

/-! ### Calls -/

/-- Answers a call. Without an anchor date, defaults are those for today. -/
def Call.handle (settings : Settings) (today : Date) : Call → Handler Success
  | health => return ⟨200, .object [("status", .text "ok")]⟩
  | validate form => do
    let rule ← settle refusingRules form.toDraft.toRule
    return ⟨200, .object [("valid", .bool true), ("rule", draftDocument (.ofRule rule))]⟩
  | defaults kind anchor => do
    let anchor := anchor.getD today
    let pattern ← settle refusingRules (Pattern.ofNamedKind (.text kind) (.date anchor))
    return ⟨200, .object [("recurrence_type", .text kind), ("anchor_date", writtenDate anchor),
      ("defaults", .object (pattern.fields.map fun (field, value) =>
        (Text.ofString field.name, value)))]⟩
  | preview form maxCount hardEndDate => do
    let rule ← settle refusingRules form.toDraft.toRule
    let bound ← settle refusingRules (previewBound settings rule maxCount hardEndDate)
    let dates ← generated rule bound
    return ⟨200, .object [("occurrences", datesDocument dates), ("count", .int dates.length),
      ("max_count", bound.maxCount.toValue)]⟩
  | calendar form year month maxCount => do
    let rule ← settle refusingRules form.toDraft.toRule
    let month : YearMonth := ⟨year.getD rule.startDate.year, month.getD rule.startDate.month⟩
    let lastShown ← settle refusingRules (month.gridEnd.mapError .calendar)
    let dates ←
      if lastShown < rule.startDate then pure []
      else do
        let count ← settle refusingRules (CountLimit.ofValue (.ofOption .int maxCount))
        generated rule ⟨count, .date lastShown⟩
    let view ← settle refusingRules ((MonthView.showing dates month).mapError .calendar)
    return ⟨200, monthDocument view⟩
  | nthWeekday year month ordinal weekday => do
    let date ← settle refusingRules
      ((YearMonth.toForm ⟨year, month⟩).onWeekday (.text ordinal) (.int weekday))
    return ⟨200, .object [("year", .int year), ("month", .int month), ("ordinal", .text ordinal),
      ("weekday", .int weekday), ("date", writtenDate date)]⟩
  | listDrafts => do
    let records ← settle refusingAccess (← ask fun store => store.list session)
    return ⟨200, .list (← settle refusingAccess (records.mapM recordDocument))⟩
  | createDraft name form =>
    writtenDraft 201 "created" fun store => store.create session (.text name) form.toDraft
  | getDraft id => do
    let record ← settle refusingAccess (← ask fun store => store.load session (.int id))
    return ⟨200, ← settle refusingAccess (recordDocument record)⟩
  | updateDraft id expectedVersion form =>
    writtenDraft 200 "updated" fun store =>
      store.update session (.int id) (.int expectedVersion) form.toDraft
  | switchDraft id expectedVersion kind anchor =>
    writtenDraft 200 "updated" fun store =>
      store.switchKind session (.int id) (.int expectedVersion) (.text kind)
        (.ofOption .date anchor)
  | previewDraft id maxCount hardEndDate => do
    let record ← settle refusingAccess (← ask fun store => store.load session (.int id))
    let rule ← settle refusingAccess record.toRule
    let bound ← settle refusingAccess (previewBound settings rule maxCount hardEndDate)
    let dates ← generated rule bound
    return ⟨200, .object [("draft_id", .int record.id), ("version", .int record.version),
      ("occurrences", datesDocument dates), ("count", .int dates.length)]⟩

/-- The answer to a call, the log lines, and the rows afterwards. -/
def Call.answer (settings : Settings) (today : Date) (rows : List Record) (call : Call) :
    Except Failure Success × Progress :=
  (call.handle settings today).run ⟨.ofRows rows, []⟩

end Recurrence.Service
