/-
**Requests that make calls.**

A request makes a call if it leads to an endpoint that accepts its parts as that call. The response
to it is that to the answer of the call, and the numbers of the call are in the ranges that the
parts are checked against. A response carries a document, or the reason why a rule is refused, as
long as it can be written. Only three calls write rows.

* `Request.Makes`: what it means to pass the checks of an endpoint;
* `respond_of_makes`: the response to such a request;
* `Request.Makes.isInRange`, `Request.Makes.isWritable`: the numbers of a call are in their ranges,
  and can be written;
* `Response.refuses_of`, `Response.brokenOff_of`: what becomes of a refused rule;
* `Call.keepsRows`: the other calls leave the rows as they are.
-/
import Recurrence.Proofs.Service.Preview
import Recurrence.Proofs.Service.Writable
import Recurrence.Service.Respond

namespace Recurrence.Service

open Json (isProper isProperText)

/-- The request makes a call: its method and its path lead to an endpoint that accepts its
parameters and the document in its body as that call. -/
def Request.Makes (settings : Settings) (request : Request) (call : Call) : Prop :=
  let target := Target.ofWritten request.target
  ∃ endpoint document,
    Endpoint.find (String.ofList (request.method.toList.flatMap Text.capitals)) target.path =
        .ok endpoint ∧
      (if endpoint.hasBody then request.body else .absent).read = .ok document ∧
      endpoint.call settings (Endpoint.queryParts (request.parameters.getD target.parameters))
        document = .accepted call

/-! ### Responses -/

/-- Every endpoint is asked with one of two methods. -/
theorem Endpoint.method_of_mem {path : String} :
    ∀ entry ∈ atWrittenPath path, entry.1 = "GET" ∨ entry.1 = "POST" := by
  unfold atWrittenPath
  split <;> (repeat' split) <;> simp

theorem Endpoint.ne_head_of_mem {path : String} {entry : String × Endpoint}
    (member : entry ∈ atPath path) : entry.1 ≠ "HEAD" := by
  unfold atPath at member
  split at member <;> rcases method_of_mem entry member with same | same <;> rw [same] <;> decide

theorem Endpoint.ne_head_of_find {method path : String} {endpoint : Endpoint}
    (found : find method path = .ok endpoint) : method ≠ "HEAD" := by
  unfold find at found
  split at found
  · split at found <;> cases found
  · split at found
    · rename_i named
      exact ne_head_of_mem (mem_of_lookup named)
    · cases found

/-- **A request that makes a call is responded to with the answer of the call.** -/
theorem respond_of_makes {settings : Settings} {request : Request} {call : Call}
    (made : request.Makes settings call) (today : Date) (rows : List Record) :
    respond settings today rows request =
      (.ofAnswer (call.answer settings today rows).1 (call.answer settings today rows).2.log,
        (call.answer settings today rows).2.store.rows) := by
  obtain ⟨endpoint, document, found, read, accepted⟩ := made
  have method := Endpoint.ne_head_of_find found
  unfold respond respondAt
  simp only [found, read, accepted, if_neg method]

theorem Request.Makes.isInRange {settings : Settings} {request : Request} {call : Call}
    (made : request.Makes settings call) : call.IsInRange settings := by
  obtain ⟨_, _, _, _, accepted⟩ := made
  exact (Endpoint.accepted_of_call accepted).isInRange

/-- **The numbers of a call that a request makes can be written.** -/
theorem Request.Makes.isWritable {settings : Settings} {request : Request} {call : Call}
    (made : request.Makes settings call) : call.IsWritable := by
  obtain ⟨_, _, _, read, accepted⟩ := made
  refine (Endpoint.accepted_of_call accepted).isWritable (fun content given => ?_)
    (Endpoint.isWritable_queryParts _)
  rw [Option.mem_def.mp given] at read
  exact Body.isWritable_of_read read

/-! ### Contents of responses -/

namespace Response

/-- A finished response that carries a document. -/
def Carries (response : Response) (status : Nat) (document : Value) : Prop :=
  response.status = status ∧ response.content = .document document ∧ response.finished = true

/-- A response that refuses a rule: it carries the code, the field and the message of the cause. -/
def Refuses (response : Response) (cause : RuleError) : Prop :=
  response.Carries 400 (.object [("detail", .object [("error", .text cause.code),
    ("field", cause.field), ("message", .text cause.message)])])

variable {status : Nat} {log : List LogEntry}

theorem carries_of {document : Value} (proper : isProper document = true) :
    (Response.of status (.document document) log).Carries status document := by
  have written : (Content.document document).isProper = true := proper
  unfold Response.of
  rw [if_pos written]
  exact ⟨rfl, rfl, rfl⟩

/-- A refused rule is answered with its cause, if what is refused can be shown. -/
theorem refusedRule_of_shown {cause : RuleError} (shown : cause ≠ .unwritable) :
    refusedRule cause = .refused 400 (.object [("error", .text cause.code),
      ("field", cause.field), ("message", .text cause.message)]) := by
  cases cause <;> first | rfl | exact absurd rfl shown

/-- A refusal can be written if its cause can be presented. -/
theorem isProper_refusal {cause : RuleError} (shown : cause ≠ .unwritable) :
    isProper (.object [("detail", .object [("error", .text cause.code), ("field", cause.field),
      ("message", .text cause.message)])]) = true ↔ cause.IsPresentable := by
  simp only [Json.isProper_object, List.forall_mem_cons, Json.isProperText_ofString, true_and]
  constructor
  · rintro ⟨⟨_, field, message, _⟩, _⟩
    exact ⟨shown, field, message⟩
  · rintro ⟨_, field, message⟩
    exact ⟨⟨Json.isProperText_ofString _, field, message, List.forall_mem_nil _⟩,
      List.forall_mem_nil _⟩

/-- **A refused rule is answered with its cause,** unless the cause cannot be written. -/
theorem refuses_of {cause : RuleError} (presentable : cause.IsPresentable) :
    (ofAnswer (.error (refusedRule cause)) log).Refuses cause := by
  rw [refusedRule_of_shown presentable.shown]
  exact carries_of ((isProper_refusal presentable.shown).mpr presentable)

theorem brokenOff_of {cause : RuleError} (unpresentable : ¬ cause.IsPresentable) :
    ofAnswer (.error (refusedRule cause)) log = brokenOff log := by
  by_cases shown : cause = .unwritable
  · rw [shown]
    rfl
  · rw [refusedRule_of_shown shown]
    exact if_neg fun proper => unpresentable ((isProper_refusal shown).mp proper)

end Response

/-! ### Calls that read -/

namespace Handler

variable {α β : Type}

/-- The handler leaves the rows as they are. -/
def KeepsRows (handler : Handler α) : Prop :=
  ∀ progress, (handler.outcome progress).2.store.rows = progress.store.rows

namespace KeepsRows

theorem pure (content : α) : KeepsRows (pure content) := fun _ => rfl

theorem throw (failure : Failure) : KeepsRows (throw failure : Handler α) := fun _ => rfl

theorem note (entries : List LogEntry) : KeepsRows (note entries) := fun _ => rfl

theorem bind {handler : Handler α} {next : α → Handler β} (first : handler.KeepsRows)
    (later : ∀ content, (next content).KeepsRows) : (handler >>= next).KeepsRows := by
  intro progress
  rw [outcome_bind, ← first progress]
  cases handler.outcome progress with
  | mk result between =>
    cases result with
    | error failure => rfl
    | ok content => exact later content between

theorem ask {question : Store → Store.Answer α}
    (reads : ∀ store, (question store).2.rows = store.rows) : KeepsRows (ask question) :=
  fun progress => reads progress.store

theorem settle (foreseen : Foreseen) (result : Except Error α) :
    KeepsRows (settle foreseen result) := by
  unfold Service.settle
  split
  · exact pure _
  · exact throw _
  · exact throw _
  · exact throw _

theorem generated (rule : Rule) (bound : Bound) : KeepsRows (generated rule bound) := by
  unfold Service.generated
  split
  · exact bind (note _) fun _ => pure _
  · exact bind (note _) fun _ => throw _
  · exact throw _

end KeepsRows

end Handler

/-- The call may write a row. -/
def Call.Writes : Call → Prop
  | createDraft .. | updateDraft .. | switchDraft .. => True
  | _ => False

open Handler (KeepsRows)

/-- **Calls that do not write leave the rows as they are.** -/
theorem Call.keepsRows {call : Call} (reads : ¬ call.Writes) (settings : Settings) (today : Date) :
    (call.handle settings today).KeepsRows := by
  cases call with
  | health => exact .pure _
  | validate form => exact .bind (.settle _ _) fun _ => .pure _
  | defaults kind anchor => exact .bind (.settle _ _) fun _ => .pure _
  | preview form maxCount hardEnd =>
    exact .bind (.settle _ _) fun _ => .bind (.settle _ _) fun _ =>
      .bind (.generated _ _) fun _ => .pure _
  | calendar form year month maxCount =>
    refine .bind (.settle _ _) fun rule => .bind (.settle _ _) fun lastShown => ?_
    dsimp only
    split
    · exact .bind (.pure _) fun _ => .bind (.settle _ _) fun _ => .pure _
    · exact .bind (.settle _ _) fun _ => .bind (.generated _ _) fun _ =>
        .bind (.settle _ _) fun _ => .pure _
  | nthWeekday year month ordinal weekday => exact .bind (.settle _ _) fun _ => .pure _
  | listDrafts =>
    exact .bind (.ask fun store => store.list_rows _) fun _ => .bind (.settle _ _) fun _ =>
      .bind (.settle _ _) fun _ => .pure _
  | getDraft id =>
    exact .bind (.ask fun store => (Store.load_refreshes store _ _).rows) fun _ =>
      .bind (.settle _ _) fun _ => .bind (.settle _ _) fun _ => .pure _
  | previewDraft id maxCount hardEnd =>
    exact .bind (.ask fun store => (Store.load_refreshes store _ _).rows) fun _ =>
      .bind (.settle _ _) fun _ => .bind (.settle _ _) fun _ => .bind (.settle _ _) fun _ =>
        .bind (.generated _ _) fun _ => .pure _
  | createDraft name form => exact absurd trivial reads
  | updateDraft id expected form => exact absurd trivial reads
  | switchDraft id expected kind anchor => exact absurd trivial reads

end Recurrence.Service
