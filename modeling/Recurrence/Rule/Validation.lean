/-
**Making rules from forms.**

`Draft.toRule` makes a rule from a draft, or reports the first thing that is wrong: the kind, the
interval, the fields of the kind, the start date, the end date, and last an end before the start.
Fields of other kinds are not looked at. What is refused is shown, unless it cannot be
(`RuleError.showing`). `Rule.edit` makes a rule anew from its form with some fields changed.
-/
import Recurrence.Error

namespace Recurrence

/-! ### Single fields -/

namespace Value

/-- A value that names a kind of rule. -/
def asKind (named : Value) : Except RuleError Kind :=
  match named with
  | text name =>
    match name.string?.bind Kind.ofName? with
    | some kind => .ok kind
    | none => .error (.unsupportedKind (text name))
  | other => .error (.showing .unsupportedKind other)

/-- An interval is a whole number of at least one. -/
def asInterval : Value → Except RuleError { interval : Int // 1 ≤ interval }
  | int interval =>
    if valid : 1 ≤ interval then .ok ⟨interval, valid⟩
    else .error (.showing .invalidInterval (int interval))
  | other => .error (.showing .invalidInterval other)

/-- A weekday is a whole number from 0 to 6. What is none is reported at a field. -/
def asWeekday (weekday field : Value) : Except RuleError Weekday :=
  match weekday with
  | int weekday =>
    if valid : 0 ≤ weekday ∧ weekday ≤ 6 then .ok ⟨weekday.toNat, by omega⟩
    else .error (.showing (.invalidWeekday field) (int weekday))
  | other => .error (.showing (.invalidWeekday field) other)

/-- Chosen weekdays are listed, at least one, and each of them a weekday. -/
def asWeekdays (listed : Value) : Except Error WeekdaySet := do
  if !listed.isFilled then throw (.rule .noWeekdays)
  let items ← listed.items.mapError .mismatch
  let weekdays := items.mapM fun item => item.asWeekday (ofField .daysOfWeek)
  match ← weekdays.mapError .rule with
  | [] => throw (.rule .noWeekdays)
  | first :: others => return .ofList first others

/-- A day of the month is a whole number from 1 to 31. -/
def asMonthDay : Value → Except RuleError MonthDay
  | int day =>
    if valid : 1 ≤ day ∧ day ≤ 31 then .ok ⟨day, valid.1, valid.2⟩
    else .error (.showing .invalidMonthDay (int day))
  | other => .error (.showing .invalidMonthDay other)

/-- An ordinal is one of the five names. -/
def asOrdinal : Value → Except RuleError Ordinal
  | text name =>
    match name.string?.bind Ordinal.ofName? with
    | some ordinal => .ok ordinal
    | none => .error (.unsupportedOrdinal (text name))
  | other => .error (.showing .unsupportedOrdinal other)

/-- A start date is a date without a time. -/
def asStartDate : Value → Except RuleError Date
  | date start => .ok start
  | other => .error (.showing .startNoDate other)

/-- An end date is missing, or a date without a time that does not lie before the start. -/
def asEndDate (start : Date) :
    Value → Except RuleError { endDate : Option Date // ∀ last ∈ endDate, start ≤ last }
  | null => .ok ⟨none, by simp⟩
  | date last =>
    if valid : start ≤ last then .ok ⟨some last, by simp [valid]⟩
    else .error (.endBeforeStart last start)
  | other => .error (.showing .endNoDate other)

end Value

/-! ### Rules -/

/-- The pattern of a kind, read from the fields of that kind. -/
def Pattern.ofDraft (kind : Kind) (draft : Draft) : Except Error Pattern :=
  match kind with
  | .daily => .ok .daily
  | .weekly => do return .weekly (← draft.daysOfWeek.asWeekdays)
  | .monthlyByDay => do return .monthlyByDay (← draft.monthDay.asMonthDay.mapError .rule)
  | .monthlyByWeekday => do
    let ordinal ← draft.monthWeek.asOrdinal.mapError .rule
    let weekday ← (draft.monthWeekDay.asWeekday (.ofField .monthWeekDay)).mapError .rule
    return .monthlyByWeekday ordinal weekday
  | .yearly => .ok .yearly

/-- The rule of a kind that a form describes, whatever kind the form names. -/
def Rule.ofDraft (kind : Kind) (draft : Draft) : Except Error Rule := do
  let ⟨interval, one_le_interval⟩ ← draft.interval.asInterval.mapError .rule
  let pattern ← Pattern.ofDraft kind draft
  let startDate ← draft.startDate.asStartDate.mapError .rule
  let ⟨endDate, start_le_end⟩ ← (draft.endDate.asEndDate startDate).mapError .rule
  return { pattern, interval, startDate, endDate, one_le_interval, start_le_end }

/-- The rule that a draft describes. The weekdays of a weekly draft are listed before anything else
of it is looked at. -/
def Draft.toRule (draft : Draft) : Except Error Rule := do
  match ← draft.recurrenceType.asKind.mapError .rule with
  | .weekly =>
    let weekdays ← draft.daysOfWeek.items.mapError .mismatch
    Rule.ofDraft .weekly { draft with daysOfWeek := .list weekdays }
  | kind => Rule.ofDraft kind draft

/-- The rule of a kind that named entries describe. -/
def Rule.ofEntries (kind : Kind) (entries : List (Text × Value)) : Except Error Rule := do
  Rule.ofDraft kind (← (kind.form.fill entries).mapError .form)

/-- The rule with some of its fields changed, every check being made again. No change can have the
name that the rule itself goes by. -/
def Rule.edit (rule : Rule) (entries : List (Text × Value)) : Except Error Rule := do
  if (entryNamed? "rule" entries).isSome then throw (.form (.takenName "with_changes" "rule"))
  let changes ← (rule.kind.form.changes entries).mapError .form
  Rule.ofDraft rule.kind ((Draft.ofRule rule).setAll changes)

/-- The outcomes of several edits, one after the other. An edit that fails leaves the rule as it
is. -/
def Rule.edits (rule : Rule) : List (List (Text × Value)) → List (Except Error Rule)
  | [] => []
  | entries :: later =>
    let outcome := rule.edit entries
    outcome :: (outcome.toOption.getD rule).edits later

end Recurrence
