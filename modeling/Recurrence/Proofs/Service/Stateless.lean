/-
**Calls that need no drafts.**

Rules, dates, months and weekdays can be asked for without a stored draft. Such a call is answered
with a document, or with the reason why a rule is refused; and it changes nothing. Three things
break it off: a kind whose name cannot be written, a first year after the start that cannot be
reported, and the grids of the first and the last month of the calendar, which reach beyond it.

* `Call.check`: what the checks of rules say to a call;
* `Call.BreaksOff`: the calls that break off;
* `Call.Ends`: how an answer comes about, and `Call.ends` that every answer does;
* `stateless_answered`: the responses to requests that make such calls.
-/
import Recurrence.Proofs.Calendar.MonthForm
import Recurrence.Proofs.Service.Calendar
import Recurrence.Proofs.Service.Calls

namespace Recurrence.Service

open Json (isProper isProperText)

namespace Call

/-- The call neither reads nor writes drafts. -/
def IsStateless : Call → Prop
  | validate _ | defaults .. | preview .. | calendar .. | nthWeekday .. => True
  | health | listDrafts | createDraft .. | getDraft _ | updateDraft .. | switchDraft ..
  | previewDraft .. => False

/-- What the checks of rules say to a call that needs no drafts. -/
def check : Call → Except Error Unit
  | validate form | preview form .. | calendar form .. => discard form.toDraft.toRule
  | defaults kind _ => discard ((Value.text kind).asKind.mapError .rule)
  | nthWeekday _ _ ordinal weekday => do
    discard ((Value.text ordinal).asOrdinal.mapError .rule)
    discard (((Value.int weekday).asWeekday (.ofField .monthWeekDay)).mapError .rule)
  | _ => .ok ()

/-- The call breaks off: the name of a kind cannot be written, or the first year after the start
cannot be reported, or the grid of the month reaches beyond the calendar. -/
def BreaksOff (settings : Settings) : Call → Prop
  | validate form => form.BreaksOff fun _ => False
  | defaults kind _ => ¬ isProperText kind
  | preview form maxCount hardEnd => form.BreaksOff fun rule =>
    ∃ limit, previewBound settings rule maxCount hardEnd = .ok (.dated limit hardEnd) ∧
      rule.IsUnreportable limit hardEnd
  | calendar form year month maxCount => form.BreaksOff fun rule =>
    askedMonth rule year month = ⟨1, 1⟩ ∨ askedMonth rule year month = ⟨9999, 12⟩ ∨
      ∃ limit lastShown, CountLimit.ofValue (.ofOption .int maxCount) = .ok limit ∧
        (askedMonth rule year month).gridEnd = .ok lastShown ∧
        rule.IsUnreportable limit (some lastShown)
  | _ => False

/-- How the answer to a call comes about: with a document that can be written, as the refusal of a
rule, or by breaking off. -/
inductive Ends (settings : Settings) (call : Call) : Except Failure Success → Prop
  | document {document : Value} (valid : call.check = .ok ()) (sound : ¬ call.BreaksOff settings)
      (proper : isProper document = true) : Ends settings call (.ok ⟨200, document⟩)
  | refusal {cause : RuleError} (refused : call.check = .error (.rule cause))
      (presentable : cause.IsPresentable ↔ ¬ call.BreaksOff settings) :
      Ends settings call (.error (refusedRule cause))
  | failure {cause : Error} (breaks : call.BreaksOff settings) :
      Ends settings call (.error (.broken cause))

end Call

/-! ### Rules and kinds -/

theorem outcome_settle_refused {α : Type} (cause : RuleError) (progress : Progress) :
    (settle refusingRules (.error (.rule cause)) : Handler α).outcome progress =
      (.error (refusedRule cause), progress) :=
  rfl

namespace Call

variable {settings : Settings} (today : Date) (rows : List Record)

/-- **A rule is accepted as it is written down, or refused.** -/
theorem ends_validate (form : RuleForm) (writable : form.IsWritable) :
    (validate form).Ends settings ((validate form).answer settings today rows).1 := by
  rw [answer_eq, handle]
  rcases form.breaksOff_cases writable fun _ => False with
    ⟨rule, valid, breaks⟩ | ⟨cause, refused, presentable⟩
  · simp only [Handler.outcome_bind, valid, outcome_settle_ok, outcome_pure]
    refine .document (congrArg discard valid) breaks.mp ?_
    simp only [Json.isProper_object, List.forall_mem_cons, isProper_draftDocument,
      Json.isProperText_ofString, true_and]
    exact ⟨rfl, List.forall_mem_nil _⟩
  · simp only [Handler.outcome_bind, refused, outcome_settle_refused]
    exact .refusal (congrArg discard refused) presentable

/-- **The fields of a known kind are filled in for every date.** -/
theorem ends_defaults (kind : Text) (anchor : Option Date) :
    (defaults kind anchor).Ends settings ((defaults kind anchor).answer settings today rows).1 := by
  rw [answer_eq, handle]
  rcases Value.asKind_text_cases kind with ⟨kind, rfl⟩ | unknown
  · have day : (Value.date (anchor.getD today)).HasDay (anchor.getD today) := Or.inl rfl
    have found := Pattern.ofNamedKind_name day kind
    have proper : isProperText (.ofString kind.name) = true := Json.isProperText_ofString _
    have known : (defaults (.ofString kind.name) anchor).check = .ok () := by
      rw [check, Value.asKind_name]
      rfl
    simp only [Handler.outcome_bind, found, outcome_settle_ok, outcome_pure]
    refine .document known (not_not_intro proper) ?_
    simp only [Json.isProper_object, List.forall_mem_cons, isProper_writtenDate, isProper_fields,
      Json.isProperText_ofString, true_and]
    exact ⟨proper, List.forall_mem_nil _⟩
  · have refused : (defaults kind anchor).check =
        .error (.rule (.unsupportedKind (.text kind))) := by
      rw [check, unknown]
      rfl
    simp only [Handler.outcome_bind, Pattern.ofNamedKind_of_unknown unknown,
      outcome_settle_refused]
    exact .refusal refused (RuleError.isPresentable_unsupportedKind.trans not_not.symm)

end Call

/-! ### Dates -/

/-- If the counts of the settings are positive, a preview has a count, unless it is asked for with
one that is not. -/
theorem previewBound_ok (settings : Settings) (usual : 1 ≤ settings.defaultPreviewCount)
    (most : 1 ≤ settings.maxPreviewCount) (rule : Rule) {maxCount : Option Int}
    (positive : ∀ count ∈ maxCount, 1 ≤ count) (hardEnd : Option Date) :
    ∃ (count : Int) (one_le : 1 ≤ count),
      previewBound settings rule maxCount hardEnd = .ok (.dated (.whole count one_le) hardEnd) := by
  have counted : 1 ≤ maxCount.getD (if (hardEnd.isSome || rule.endDate.isSome) = true then
      settings.maxPreviewCount else settings.defaultPreviewCount) := by
    cases maxCount with
    | some count => exact positive count rfl
    | none =>
      rw [Option.getD_none]
      split
      · exact most
      · exact usual
  refine ⟨_, counted, ?_⟩
  unfold previewBound
  simp only [CountLimit.ofValue, dif_pos counted]
  rfl

namespace Call

variable (today : Date) (rows : List Record)

/-- **The dates of a valid rule are shown, unless the first year after the start cannot be
reported.** -/
theorem ends_preview (form : RuleForm) (writable : form.IsWritable) {maxCount : Option Int}
    (positive : ∀ count ∈ maxCount, 1 ≤ count) (hardEnd : Option Date) :
    (preview form maxCount hardEnd).Ends .default
      ((preview form maxCount hardEnd).answer .default today rows).1 := by
  rw [answer_eq, handle]
  rcases form.breaksOff_cases writable fun rule =>
      ∃ limit, previewBound .default rule maxCount hardEnd = .ok (.dated limit hardEnd) ∧
        rule.IsUnreportable limit hardEnd with
    ⟨rule, valid, breaks⟩ | ⟨cause, refused, presentable⟩
  · obtain ⟨count, one_le, accepted⟩ :=
      previewBound_ok .default (by decide) (by decide) rule positive hardEnd
    have dates := Rule.dates_eq (rule.isBounded_whole one_le hardEnd)
    by_cases unreportable : rule.IsUnreportable (.whole count one_le) hardEnd
    · rw [if_pos unreportable] at dates
      simp only [Handler.outcome_bind, valid, outcome_settle_ok, accepted,
        outcome_generated_unwritable (Rule.sequence_of_dates_error dates)]
      exact .failure (breaks.mpr ⟨_, accepted, unreportable⟩)
    · rw [if_neg unreportable] at dates
      obtain ⟨sequence, produced, _⟩ := Rule.exists_sequence_of_dates dates
      simp only [Handler.outcome_bind, valid, outcome_settle_ok, accepted,
        outcome_generated produced, outcome_pure]
      refine .document (congrArg discard valid) (fun breaksOff => unreportable ?_) ?_
      · obtain ⟨limit', accepted', unreportable'⟩ := breaks.mp breaksOff
        cases accepted.symm.trans accepted'
        exact unreportable'
      · simp only [Json.isProper_object, List.forall_mem_cons, isProper_datesDocument,
          Json.isProperText_ofString, true_and]
        exact ⟨rfl, rfl, List.forall_mem_nil _⟩
  · simp only [Handler.outcome_bind, refused, outcome_settle_refused]
    exact .refusal (congrArg discard refused) presentable

/-- **The month is shown with the dates of a valid rule,** unless its grid reaches beyond the
calendar or the first year after the start cannot be reported. -/
theorem ends_calendar {settings : Settings} (form : RuleForm) (writable : form.IsWritable)
    {year month maxCount : Option Int}
    (inRange : (calendar form year month maxCount).IsInRange settings) :
    (calendar form year month maxCount).Ends settings
      ((calendar form year month maxCount).answer settings today rows).1 := by
  obtain ⟨years, months, counts⟩ := inRange
  rcases form.breaksOff_cases writable fun rule =>
      askedMonth rule year month = ⟨1, 1⟩ ∨ askedMonth rule year month = ⟨9999, 12⟩ ∨
        ∃ limit lastShown, CountLimit.ofValue (.ofOption .int maxCount) = .ok limit ∧
          (askedMonth rule year month).gridEnd = .ok lastShown ∧
          rule.IsUnreportable limit (some lastShown) with
    ⟨rule, valid, breaks⟩ | ⟨cause, refused, presentable⟩
  · -- Only the first and the last month of the calendar have no grid.
    have beyond {cause : CalendarError}
        (none : (askedMonth rule year month).gridEnd = .error cause)
        (edge : askedMonth rule year month = ⟨1, 1⟩ ∨ askedMonth rule year month = ⟨9999, 12⟩) :
        (calendar form year month maxCount).Ends settings
          ((calendar form year month maxCount).answer settings today rows).1 := by
      rw [calendar_of_no_grid valid none]
      exact .failure (breaks.mpr (edge.imp_right Or.inl))
    by_cases first : askedMonth rule year month = ⟨1, 1⟩
    · exact beyond (congrArg YearMonth.gridEnd first) (Or.inl first)
    by_cases last : askedMonth rule year month = ⟨9999, 12⟩
    · exact beyond (congrArg YearMonth.gridEnd last) (Or.inr last)
    have showable := isShowable_askedMonth years months first last
    obtain ⟨limit, accepted⟩ := exists_limit fun count asked => (counts count asked).1
    obtain ⟨lastShown, ends, _⟩ := YearMonth.gridEnd_eq_ok showable
    by_cases unreportable : rule.IsUnreportable limit (some lastShown)
    · rw [calendar_eq_error valid accepted ends unreportable]
      exact .failure (breaks.mpr (Or.inr (Or.inr ⟨limit, lastShown, accepted, ends, unreportable⟩)))
    · obtain ⟨view, shows, _⟩ := MonthView.showing_eq_ok showable
        (rule.selection limit (some lastShown))
      rw [calendar_eq_ok valid accepted ends unreportable shows]
      refine .document (congrArg discard valid) (fun breaksOff => ?_) (isProper_monthDocument view)
      rcases breaks.mp breaksOff with edge | edge | ⟨limit', lastShown', accepted', ends', far⟩
      · exact first edge
      · exact last edge
      · cases accepted.symm.trans accepted'
        cases ends.symm.trans ends'
        exact unreportable far
  · rw [answer_eq, handle]
    simp only [Handler.outcome_bind, refused, outcome_settle_refused]
    exact .refusal (congrArg discard refused) presentable

/-- **A place and a weekday are found in every month.** -/
theorem ends_nthWeekday {settings : Settings} {year month : Int} (ordinal : Text) {weekday : Int}
    (writable : Recurrence.IsWritable weekday)
    (inRange : (nthWeekday year month ordinal weekday).IsInRange settings) :
    (nthWeekday year month ordinal weekday).Ends settings
      ((nthWeekday year month ordinal weekday).answer settings today rows).1 := by
  have inside : (⟨year, month⟩ : YearMonth).IsInCalendar := inRange.1
  have proper : (⟨year, month⟩ : YearMonth).IsMonth := inRange.2
  have resolved := MonthForm.onWeekday_toForm proper inside (.text ordinal) (.int weekday)
  have checked : (nthWeekday year month ordinal weekday).check = (do
    discard ((Value.text ordinal).asOrdinal.mapError .rule)
    discard (((Value.int weekday).asWeekday (.ofField .monthWeekDay)).mapError .rule)) := rfl
  rw [answer_eq, handle]
  cases placed : (Value.text ordinal).asOrdinal with
  | error cause =>
    rw [placed] at resolved checked
    simp only [Handler.outcome_bind, resolved]
    have presentable := RuleError.isPresentable_of_field
      (Value.names_asOrdinal rfl cause placed) (by decide)
    exact .refusal checked (iff_of_true presentable not_false)
  | ok place =>
    cases named : (Value.int weekday).asWeekday (.ofField .monthWeekDay) with
    | error cause =>
      rw [placed, named] at resolved checked
      simp only [Handler.outcome_bind, resolved]
      have presentable := RuleError.isPresentable_of_field
        (Value.names_asWeekday (Value.isWritable_int.mpr writable) _ cause named) (by decide)
      exact .refusal checked (iff_of_true presentable not_false)
    | ok day =>
      rw [placed, named] at resolved checked
      obtain ⟨date, found, _⟩ := YearMonth.onWeekday_eq_ok proper inside place day
      simp only [mapError_ok, found, bind, Except.bind] at resolved
      have written : isProperText ordinal = true := by
        rw [Value.text.inj (Value.asOrdinal_eq_ok_iff.mp placed)]
        exact Json.isProperText_ofString _
      simp only [Handler.outcome_bind, resolved, outcome_settle_ok, outcome_pure]
      refine .document checked not_false ?_
      simp only [Json.isProper_object, List.forall_mem_cons, isProper_writtenDate,
        Json.isProperText_ofString, true_and]
      exact ⟨rfl, rfl, written, rfl, List.forall_mem_nil _⟩

/-- **Every answer to a call that needs no drafts comes about in one of the ways.** -/
theorem ends {call : Call} (stateless : call.IsStateless) (writable : call.IsWritable)
    (inRange : call.IsInRange .default) :
    call.Ends .default (call.answer .default today rows).1 := by
  cases call with
  | validate form => exact ends_validate today rows form writable
  | defaults kind anchor => exact ends_defaults today rows kind anchor
  | preview form maxCount hardEnd =>
    exact ends_preview today rows form writable (fun count asked => (inRange count asked).1) hardEnd
  | calendar form year month maxCount => exact ends_calendar today rows form writable inRange
  | nthWeekday year month ordinal weekday =>
    exact ends_nthWeekday today rows ordinal writable inRange
  | health | listDrafts | createDraft | getDraft | updateDraft | switchDraft | previewDraft =>
    exact stateless.elim

end Call

/-! ### Responses -/

namespace Call.Ends

variable {settings : Settings} {call : Call} {answer : Except Failure Success}

theorem brokenOff (ends : call.Ends settings answer) (breaks : call.BreaksOff settings)
    (log : List LogEntry) : Response.ofAnswer answer log = .brokenOff log := by
  cases ends with
  | document _ sound => exact absurd breaks sound
  | refusal _ presentable =>
    exact Response.brokenOff_of fun shown => presentable.mp shown breaks
  | failure => rfl

theorem answered (ends : call.Ends settings answer) (sound : ¬ call.BreaksOff settings)
    (log : List LogEntry) :
    (call.check = .ok () ∧ ∃ document, (Response.ofAnswer answer log).Carries 200 document) ∨
      ∃ cause, call.check = .error (.rule cause) ∧
        (Response.ofAnswer answer log).Refuses cause := by
  cases ends with
  | document valid _ proper => exact Or.inl ⟨valid, _, Response.carries_of proper⟩
  | refusal refused presentable =>
    exact Or.inr ⟨_, refused, Response.refuses_of (presentable.mpr sound)⟩
  | failure breaks => exact absurd breaks sound

end Call.Ends

/-- **A request that needs no drafts is responded to with a document, or with the reason why a rule
is refused,** unless it breaks off; and it leaves the rows as they are. -/
theorem stateless_answered {request : Request} {call : Call} (made : request.Makes .default call)
    (stateless : call.IsStateless) (today : Date) (rows : List Record) :
    (respond .default today rows request).2 = rows ∧
      (call.BreaksOff .default →
        ∃ log, (respond .default today rows request).1 = .brokenOff log) ∧
      (¬ call.BreaksOff .default →
        (call.check = .ok () ∧
          ∃ document, (respond .default today rows request).1.Carries 200 document) ∨
        ∃ cause, call.check = .error (.rule cause) ∧
          (respond .default today rows request).1.Refuses cause) := by
  have reads : ¬ call.Writes := by
    cases call <;> first | exact not_false | exact stateless.elim
  have ends := call.ends today rows stateless made.isWritable made.isInRange
  rw [respond_of_makes made]
  refine ⟨Call.keepsRows reads .default today ⟨.ofRows rows, []⟩, fun breaks => ?_, ?_⟩
  · exact ⟨_, ends.brokenOff breaks _⟩
  · exact fun sound => ends.answered sound _

/-- A request with a document in its body. -/
def posted (target : String) (document : Value) : Request where
  method := "POST"
  target := target
  parameters := none
  body := .document document

/-- A request with a document makes a call if the endpoint accepts the document as that call. -/
theorem Request.makes_posted {settings : Settings} {target : String} {document : Value}
    {call : Call} (endpoint : Endpoint) (filled : document ≠ .null)
    (writable : document.isWritable = true)
    (found : Endpoint.find (String.ofList ("POST".toList.flatMap Text.capitals))
      (Target.ofWritten target).path = .ok endpoint)
    (hasBody : endpoint.hasBody = true)
    (accepted : endpoint.call settings
      (Endpoint.queryParts (Target.ofWritten target).parameters) (some document) =
        .accepted call) : (posted target document).Makes settings call := by
  refine ⟨endpoint, some document, found, ?_, accepted⟩
  rw [if_pos hasBody]
  exact Body.read_document filled writable

/-- A document about a yearly rule can be shown if its interval can be written. -/
theorem isWritable_marchRequest {interval : Int} (writable : IsWritable interval)
    {asked : List (Text × Value)} (others : ∀ entry ∈ asked, entry.2.isWritable = true) :
    (marchRequest interval asked).isWritable = true := by
  refine Value.isWritable_object.mpr (List.forall_mem_cons.mpr ⟨?_, others⟩)
  refine Value.isWritable_object.mpr ?_
  simp only [List.forall_mem_cons, Value.isWritable_int]
  exact ⟨rfl, writable, rfl, List.forall_mem_nil _⟩

/-- A request for a preview of a yearly rule from 2026-03-01 on. -/
def marchPreview (interval : Int) : Request :=
  posted "/api/occurrences/preview" (marchRequest interval [])

theorem makes_marchPreview {interval : Int} (writable : IsWritable interval) :
    (marchPreview interval).Makes .default (.preview (marchForm interval) none none) :=
  Request.makes_posted .preview nofun (isWritable_marchRequest writable (List.forall_mem_nil _))
    (by decide +kernel) rfl rfl

/-- The first of every March is previewed. -/
theorem stateless_everyMarch :
    (marchPreview 1).Makes .default (.preview (marchForm 1) none none) ∧
      (Call.preview (marchForm 1) none none).IsStateless ∧
      ¬ (Call.preview (marchForm 1) none none).BreaksOff .default ∧
      ∃ document, (respond .default everyMarch.startDate [] (marchPreview 1)).1.Carries 200
        document := by
  have valid : (marchForm 1).toDraft.toRule = .ok everyMarch := Draft.toRule_ofRule everyMarch
  have made := makes_marchPreview isWritable_one
  have sound : ¬ (Call.preview (marchForm 1) none none).BreaksOff .default := by
    rintro (improper | ⟨rule, valid', limit, _, unreportable⟩)
    · exact improper rfl
    · cases valid.symm.trans valid'
      exact Rule.not_isUnreportable_of_fits64 (by decide) limit none unreportable
  obtain ⟨_, _, answered⟩ := stateless_answered made trivial everyMarch.startDate []
  refine ⟨made, trivial, sound, ?_⟩
  rcases answered sound with ⟨_, carried⟩ | ⟨cause, refused, _⟩
  · exact carried
  · have accepted : (Call.preview (marchForm 1) none none).check = .ok () :=
      congrArg discard valid
    cases accepted.symm.trans refused

/-- The kind of a rule in half of a surrogate pair. -/
def halfKind : Text := ⟨[.surrogate 0]⟩

/-- The request makes a call that needs no drafts, but is never answered. -/
def Request.BreaksOffWith (request : Request) (call : Call) : Prop :=
  request.Makes .default call ∧ call.IsStateless ∧
    ∀ today rows, ∃ log, (respond .default today rows request).1 = .brokenOff log

theorem Request.breaksOffWith {request : Request} {call : Call} (made : request.Makes .default call)
    (stateless : call.IsStateless) (breaks : call.BreaksOff .default) :
    request.BreaksOffWith call := by
  refine ⟨made, stateless, fun today rows => ?_⟩
  rw [respond_of_makes made]
  exact ⟨_, (call.ends today rows stateless made.isWritable made.isInRange).brokenOff breaks _⟩

/-- A year that cannot be reported, the first month of the calendar, and a kind that cannot be
written, each of them in a request that is never answered. -/
theorem stateless_breaking :
    (marchPreview Rule.distant.interval).BreaksOffWith
        (.preview (marchForm Rule.distant.interval) none none) ∧
      (posted "/api/occurrences/calendar"
        (marchRequest 1 [("year", .int 1), ("month", .int 1)])).BreaksOffWith
          (.calendar (marchForm 1) (some 1) (some 1) none) ∧
      (posted "/api/rules/defaults" (.object [("recurrence_type", .text halfKind)])).BreaksOffWith
        (.defaults halfKind none) := by
  have distant : (marchForm Rule.distant.interval).toDraft.toRule = .ok Rule.distant :=
    Draft.toRule_ofRule Rule.distant
  have march : (marchForm 1).toDraft.toRule = .ok everyMarch := Draft.toRule_ofRule everyMarch
  have twenty : (1 : Int) ≤ 20 := by decide
  have unreached : (CountLimit.whole 20 twenty).isReached 1 = false := rfl
  have within : Rule.distant.IsWithin none Rule.distant.startDate := Rule.isWithin_none rfl _
  have unreportable : Rule.distant.IsUnreportable (.whole 20 twenty) none :=
    Rule.isUnreportable_iff.mpr
      ⟨within, unreached, Or.inr ⟨rfl, Rule.not_isWritable_distant⟩⟩
  have tooFar : (Call.preview (marchForm Rule.distant.interval) none none).BreaksOff .default :=
    Or.inr ⟨Rule.distant, distant, .whole 20 twenty, rfl, unreportable⟩
  have previewed := makes_marchPreview Rule.isWritable_interval_distant
  have shown : (marchRequest 1 [("year", .int 1), ("month", .int 1)]).isWritable = true :=
    isWritable_marchRequest isWritable_one (List.forall_mem_cons.mpr
      ⟨Value.isWritable_int.mpr isWritable_one, List.forall_mem_singleton.mpr
        (Value.isWritable_int.mpr isWritable_one)⟩)
  have improper : ¬ isProperText halfKind := by decide
  refine ⟨Request.breaksOffWith previewed trivial tooFar, ?_, ?_⟩
  · exact Request.breaksOffWith (Request.makes_posted .calendar nofun shown (by decide +kernel) rfl
      rfl) trivial (Or.inr ⟨everyMarch, march, Or.inl rfl⟩)
  · exact Request.breaksOffWith (Request.makes_posted .defaults nofun rfl (by decide +kernel) rfl
      rfl) trivial improper

end Recurrence.Service
