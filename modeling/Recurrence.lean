import Recurrence.Json.Writer
import Recurrence.Service.Respond
import Recurrence.Proofs.Calendar.Civil
import Recurrence.Proofs.Calendar.Weekdays
import Recurrence.Proofs.Calendar.Grid
import Recurrence.Proofs.Calendar.Written
import Recurrence.Proofs.Sequence.Advance
import Recurrence.Proofs.Sequence.Progress
import Recurrence.Proofs.Sequence.Course
import Recurrence.Proofs.Sequence.Outcome
import Recurrence.Proofs.Sequence.Weekly
import Recurrence.Proofs.Sequence.Monthly
import Recurrence.Proofs.Sequence.Stop
import Recurrence.Proofs.Sequence.Tightening
import Recurrence.Proofs.Store.Copies
import Recurrence.Proofs.Store.Editing
import Recurrence.Proofs.Store.Effect
import Recurrence.Proofs.Store.Versions
import Recurrence.Proofs.Rule.Draft
import Recurrence.Proofs.Rule.Checks
import Recurrence.Proofs.Rule.Normal
import Recurrence.Proofs.Rule.CheckOrder
import Recurrence.Proofs.Rule.Edits
import Recurrence.Proofs.Rule.Switching
import Recurrence.Proofs.Store.Encoding
import Recurrence.Proofs.Text.Numeral
import Recurrence.Proofs.Store.WeekdayText
import Recurrence.Proofs.Store.History
import Recurrence.Proofs.Store.Acceptance
import Recurrence.Proofs.Store.Answers
import Recurrence.Proofs.Store.Canonical
import Recurrence.Proofs.Sequence.Unrefused
import Recurrence.Proofs.Service.Preview
import Recurrence.Proofs.Service.Request
import Recurrence.Proofs.Service.Calendar
import Recurrence.Proofs.Store.Catalog
import Recurrence.Proofs.Store.Refinement
import Recurrence.Proofs.Store.Failure
import Recurrence.Proofs.Store.Recovery
import Recurrence.Proofs.Calendar.MonthForm
import Recurrence.Proofs.Calendar.Places
import Recurrence.Proofs.Service.Proper
import Recurrence.Proofs.Service.Refusals
import Recurrence.Proofs.Service.Calls
import Recurrence.Proofs.Service.Stateless
import Recurrence.Proofs.Service.Reached
import Recurrence.Proofs.Service.Drafts
import Recurrence.Proofs.Service.Agreement
import Recurrence.Proofs.Service.Forms
import Recurrence.Proofs.Service.Names
import Recurrence.Proofs.Service.Served
import Recurrence.Proofs.Calendar.Scans
import Recurrence.Proofs.Calendar.View
import Recurrence.Proofs.Sequence.Numbered
import Recurrence.Proofs.Sequence.Stepped
import Recurrence.Proofs.Sequence.Alike
import Recurrence.Proofs.Sequence.Resumed
import Recurrence.Proofs.Sequence.Anchored
