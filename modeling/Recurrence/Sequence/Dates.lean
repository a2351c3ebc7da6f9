/-
**The dates of a rule.**

From one date to the next (`Rule.next`) a daily rule goes by days, a weekly rule to the next chosen
weekday of the same week or else to the first one of the next active week, and a monthly rule by
months. A yearly rule counts from its start date, so a 29 February that had to be the 28th comes
back in leap years.

`Rule.sequence` begins with the start date and goes from date to date until the count is reached,
the next date is past the end, or the calendar ends. It keeps why it stopped. Every date comes after
the one before it, so the number of days left in the calendar bounds the number of steps.

* `Date.daysLeft_lt`: a later date has fewer days left.
-/
import Recurrence.Sequence.Bound

namespace Recurrence

/-! ### The next date -/

/-- The next date on a chosen weekday, in every so many weeks. Weeks begin on Sunday. -/
def WeekdaySet.next (chosen : WeekdaySet) (interval : Int) (current : Date) :
    Except CalendarError Date :=
  match chosen.toList.find? (current.weekday < ·) with
  | some later => current.addDays ((later.val : Int) - current.weekday.val)
  | none => do
    let nextWeek ← (← current.weekStart).addDays (7 * interval)
    nextWeek.addDays chosen.first.val

/-- The date after the current one, which is the date number `step` when the start date is number
0. -/
def Rule.next (rule : Rule) (current : Date) (step : Int) : Except CalendarError Date :=
  match rule.pattern with
  | .daily => current.addDays rule.interval
  | .weekly weekdays => weekdays.next rule.interval current
  | .monthlyByDay day => (current.yearMonth.shift rule.interval).onDayOrLast day.number
  | .monthlyByWeekday ordinal weekday => do
    let month := current.yearMonth.shift rule.interval
    month.requireYear
    month.onWeekday ordinal weekday
  | .yearly =>
    let month : YearMonth :=
      { rule.startDate.yearMonth with year := rule.startDate.year + step * rule.interval }
    month.onDayOrLast rule.startDate.day

/-! ### Sequences -/

/-- Why a sequence of dates stopped. -/
inductive Stop where
  /-- The start date is past the end already. -/
  | beforeStart
  /-- The count is reached. -/
  | count
  /-- The next date is past the end. -/
  | endDate
  /-- The next date is past the end of the calendar. -/
  | calendarEnd
deriving DecidableEq

/-- A sequence of dates and why it stopped. -/
structure Sequence where
  dates : List Date
  stop : Stop
deriving DecidableEq

/-- The number of days of the calendar after a date. -/
def Date.daysLeft (date : Date) : Nat := (3652059 - date.dayNumber).toNat

/-- A later date has fewer days left. -/
theorem Date.daysLeft_lt {earlier later : Date} (before : earlier < later) :
    later.daysLeft < earlier.daysLeft := by
  have bound := later.le_last
  have order := lt_def.mp before
  unfold daysLeft
  omega

/-- A candidate for the next date, which has to come after the last one. -/
def Date.following (produced : Array Date) (last candidate : Date) :
    Except SequenceError { next : Date // last < next } :=
  if later : last < candidate then .ok ⟨candidate, later⟩
  else .error (.stalled last.iso candidate.iso (produced.toList.map .date))

/-- Lets a candidate pass that comes after the last date. Both may be anything that is ordered, but
what stalls has to be a date to be reported. -/
def Value.requireProgress (produced : List Value) (last candidate : Value) : Except Error Unit := do
  if ← (candidate.compare .greater last).mapError .mismatch then return
  let candidate ← candidate.asIso.mapError .mismatch
  let last ← last.asIso.mapError .mismatch
  throw (.sequence (.stalled last candidate produced))

namespace Rule

/-- The dates from the current one on, after those produced already. -/
def sequenceFrom (rule : Rule) (limits : Limits) (produced : Array Date) (current : Date) :
    Except Error Sequence :=
  let produced := produced.push current
  if limits.maxCount.isReached produced.size then .ok ⟨produced.toList, .count⟩
  else
    match rule.next current produced.size with
    | .error cause =>
      if cause.isOverflow then .ok ⟨produced.toList, .calendarEnd⟩ else .error (.calendar cause)
    | .ok candidate =>
      match current.following produced candidate with
      | .error cause => .error (.sequence cause)
      | .ok ⟨next, _⟩ =>
        match limits.isPastEnd (.date next) with
        | .error cause => .error (.mismatch cause)
        | .ok true => .ok ⟨produced.toList, .endDate⟩
        | .ok false => sequenceFrom rule limits produced next
termination_by current.daysLeft
decreasing_by exact Date.daysLeft_lt ‹current < next›

/-- The dates of a rule under a bound, and why they stop. -/
def sequence (rule : Rule) (bound : Bound) : Except Error Sequence := do
  let limits ← bound.limits (.ofOption .date rule.endDate)
  if ← (limits.isPastEnd (.date rule.startDate)).mapError .mismatch then return ⟨[], .beforeStart⟩
  rule.sequenceFrom limits #[] rule.startDate

/-- The dates of a rule under a bound. -/
def dates (rule : Rule) (bound : Bound) : Except Error (List Date) :=
  (rule.sequence bound).map (·.dates)

end Rule

end Recurrence
