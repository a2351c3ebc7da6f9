/-
**Calls about stored drafts.**

Whatever requests came before, a call about drafts is answered with a document, or with the reason
why a rule is refused, or it is told that no draft has the number, or that the draft is at another
version. Two things break it off: a number that does not fit into a stored integer, be it that of
the draft or the interval of a rule that is to be stored, and a kind whose name cannot be written.

* `Call.BreaksOffAt`: the calls that break off, given the rows;
* `Catalog.find_cases`: what is found under a number, and what then breaks off;
* `Call.EndsAt`: how an answer comes about, and `Call.endsAt` that every answer does;
* `drafts_answered`: the responses to requests that make such calls.
-/
import Recurrence.Proofs.Service.Reached
import Recurrence.Proofs.Service.Stateless

namespace Recurrence

open Json (isProper isProperText)

/-! ### What is asked of one draft -/

/-- What is asked of the draft with a number breaks off: the number is too wide to look for, or a
row with that number leads to it. -/
def BreaksOffOn (rows : List Record) (id : Int) (breaks : Record → Prop) : Prop :=
  ¬ Fits64 id ∨ ∃ row ∈ rows, row.id = id ∧ breaks row

namespace Catalog

variable {catalog : Catalog}

/-- What is found under a number of the catalogue, and whether what is asked of it breaks off. -/
inductive Finds (catalog : Catalog) (id : Int) (breaks : Record → Prop) :
    Except Error (Int × Entry) → Prop
  | tooWide (breaksOff : BreaksOffOn catalog.records id breaks) :
    Finds catalog id breaks (.error (.store .numberTooWide))
  | missing (none : ∀ row ∈ catalog.records, row.id ≠ id)
    (sound : ¬ BreaksOffOn catalog.records id breaks) :
    Finds catalog id breaks (.error (.store (.notFound (.int id))))
  | found {entry : Entry} (fits : Fits64 id) (there : catalog.entry? id = some (id, entry))
    (breaksOff_iff : BreaksOffOn catalog.records id breaks ↔ breaks (entry.record id)) :
    Finds catalog id breaks (.ok (id, entry))

/-- **A number is too wide, or the number of no entry, or that of one entry.** -/
theorem finds (catalog : Catalog) (id : Int) (breaks : Record → Prop) :
    catalog.Finds id breaks (catalog.find (.int id)) := by
  have asked : Store.number? (.int id) = some id := rfl
  unfold find Store.lookup
  simp only [asked]
  by_cases fits : Fits64 id
  · rw [if_pos fits]
    cases there : catalog.entry? id with
    | none =>
      have none : ∀ row ∈ catalog.records, row.id ≠ id := by
        rintro row inside rfl
        obtain ⟨_, entry, found, rfl⟩ := mem_records.mp inside
        cases there.symm.trans found
      refine .missing none ?_
      rintro (wide | ⟨row, inside, own, _⟩)
      · exact wide fits
      · exact none row inside own
    | some found =>
      obtain ⟨number, entry⟩ := found
      obtain ⟨rfl, _⟩ := entry?_eq_some.mp there
      refine .found fits there ⟨?_, fun breaksOff => Or.inr ⟨_, ?_, rfl, breaksOff⟩⟩
      · rintro (wide | ⟨row, inside, own, breaksOff⟩)
        · exact absurd fits wide
        · obtain ⟨other, entry', found, rfl⟩ := mem_records.mp inside
          cases own
          cases there.symm.trans found
          exact breaksOff
      · exact mem_records.mpr ⟨_, entry, there, rfl⟩
  · rw [if_neg fits, if_pos trivial]
    exact .tooWide (Or.inl fits)

end Catalog

namespace Service

namespace Call

/-- The call reads or writes drafts. -/
def IsAboutDrafts : Call → Prop
  | listDrafts | createDraft .. | getDraft _ | updateDraft .. | switchDraft ..
  | previewDraft .. => True
  | health | validate _ | defaults .. | preview .. | calendar .. | nthWeekday .. => False

/-- The number of the draft that the call asks for. -/
def draft? : Call → Option Int
  | getDraft id | updateDraft id .. | switchDraft id .. | previewDraft id .. => some id
  | _ => none

/-- The version that the draft is expected at. -/
def expected? : Call → Option Int
  | updateDraft _ expected _ | switchDraft _ expected .. => some expected
  | _ => none

/-- The status of an answer with a document. -/
def status : Call → Nat
  | createDraft .. => 201
  | _ => 200

/-- The rule that the call is to store is refused for a cause. -/
def IsRefusedFor (cause : RuleError) : Call → Prop
  | createDraft _ form | updateDraft _ _ form => form.toDraft.toRule = .error (.rule cause)
  | switchDraft _ _ kind _ => (Value.text kind).asKind = .error cause
  | _ => False

/-- The call breaks off: a number does not fit into a stored integer, be it that of the draft or the
interval of a rule that would be stored, or the name of a kind cannot be written. -/
def BreaksOffAt (rows : List Record) : Call → Prop
  | createDraft _ form => form.BreaksOff fun rule => ¬ Fits64 rule.interval
  | getDraft id | previewDraft id .. => BreaksOffOn rows id fun _ => False
  | updateDraft id expected form => BreaksOffOn rows id fun row =>
    form.BreaksOff fun rule => row.version = expected ∧ ¬ Fits64 rule.interval
  | switchDraft id _ kind _ => BreaksOffOn rows id fun _ => ¬ isProperText kind
  | _ => False

/-- How the answer to a call about drafts comes about: with a document that can be written, as the
refusal of a rule, for want of a draft, for another version of it, or by breaking off. -/
inductive EndsAt (rows : List Record) (call : Call) : Except Failure Success → Prop
  | document {document : Value} (sound : ¬ call.BreaksOffAt rows)
      (proper : isProper document = true) : EndsAt rows call (.ok ⟨call.status, document⟩)
  | refusal {cause : RuleError} (refused : call.IsRefusedFor cause)
      (presentable : cause.IsPresentable ↔ ¬ call.BreaksOffAt rows) :
      EndsAt rows call (.error (refusedRule cause))
  | missing {id : Int} (asked : call.draft? = some id) (none : ∀ row ∈ rows, row.id ≠ id)
      (sound : ¬ call.BreaksOffAt rows) :
      EndsAt rows call (.error (refusedAccess (.notFound (.int id))))
  | stale {row : Record} {expected : Int} (asked : call.draft? = some row.id)
      (expects : call.expected? = some expected) (inside : row ∈ rows)
      (other : row.version ≠ expected) (sound : ¬ call.BreaksOffAt rows) :
      EndsAt rows call (.error (refusedAccess (.staleVersion row.id row.version (.int expected))))
  | failure {cause : Error} (breaks : call.BreaksOffAt rows) :
      EndsAt rows call (.error (.broken cause))

end Call

/-! ### Calls that read -/

theorem load_ofRows {catalog : Catalog} (stored : catalog.IsStored) (id : Value) :
    ((Store.ofRows catalog.records).load session id).1 =
      (catalog.find id).map fun found => found.2.record found.1 := by
  rw [Store.load_eq_lookup]
  exact stored.represents.lookup_eq (Store.isCurrent_ofRows _ _) id

/-- The records of entries are shown as documents that can be written. -/
theorem exists_documents {rows : List Record}
    (entries : ∀ row ∈ rows, ∃ id, ∃ entry : Entry, row = entry.record id) :
    ∃ documents, rows.mapM recordDocument = .ok documents ∧ isProper (.list documents) = true := by
  induction rows with
  | nil => exact ⟨[], rfl, rfl⟩
  | cons row rows ih =>
    obtain ⟨documents, shown, proper⟩ := ih fun other later => entries other (.tail row later)
    obtain ⟨id, entry, rfl⟩ := entries row (.head rows)
    refine ⟨entry.document id :: documents, ?_, ?_⟩
    · rw [List.mapM_cons, recordDocument_record, shown]
      rfl
    · refine Json.isProper_list.mpr (List.forall_mem_cons.mpr ⟨?_, Json.isProper_list.mp proper⟩)
      exact entry.isProper_document id

namespace Call

variable {catalog : Catalog} (stored : catalog.IsStored) (today : Date)
include stored

/-- **A list shows all drafts.** -/
theorem endsAt_list : listDrafts.EndsAt catalog.records
    (listDrafts.answer .default today catalog.records).1 := by
  have listed := stored.represents.list_eq (Store.isCurrent_ofRows _ session)
  have entries (row : Record) (inside : row ∈ catalog.records) :
      ∃ id, ∃ entry : Entry, row = entry.record id := by
    obtain ⟨id, entry, _, same⟩ := Catalog.mem_records.mp inside
    exact ⟨id, entry, same⟩
  obtain ⟨documents, shown, proper⟩ := exists_documents entries
  rw [answer_eq, handle]
  simp only [Handler.outcome_bind, outcome_ask, listed, outcome_settle_ok, shown, outcome_pure]
  exact .document not_false proper

/-- **A draft is shown as it is stored.** -/
theorem endsAt_get (id : Int) : (getDraft id).EndsAt catalog.records
    ((getDraft id).answer .default today catalog.records).1 := by
  have loaded := load_ofRows stored (.int id)
  have finds := catalog.finds id fun _ => False
  rw [answer_eq, handle]
  generalize catalog.find (.int id) = found at finds loaded
  cases finds with
  | tooWide breaksOff =>
    simp only [Handler.outcome_bind, outcome_ask, loaded]
    exact .failure breaksOff
  | missing none sound =>
    simp only [Handler.outcome_bind, outcome_ask, loaded]
    exact .missing rfl none sound
  | @found entry fits there breaksOff_iff =>
    simp only [Handler.outcome_bind, outcome_ask, loaded, Except.map, outcome_settle_ok,
      recordDocument_record, outcome_pure]
    exact .document breaksOff_iff.mp (entry.isProper_document id)

/-- **A draft is previewed with the dates of its rule.** -/
theorem endsAt_preview (id : Int) {maxCount : Option Int}
    (positive : ∀ count ∈ maxCount, 1 ≤ count) (hardEnd : Option Date) :
    (previewDraft id maxCount hardEnd).EndsAt catalog.records
      ((previewDraft id maxCount hardEnd).answer .default today catalog.records).1 := by
  have loaded := load_ofRows stored (.int id)
  have finds := catalog.finds id fun _ => False
  generalize catalog.find (.int id) = found at finds loaded
  cases finds with
  | tooWide breaksOff =>
    rw [answer_eq, handle]
    simp only [Handler.outcome_bind, outcome_ask, loaded]
    exact .failure breaksOff
  | missing none sound =>
    rw [answer_eq, handle]
    simp only [Handler.outcome_bind, outcome_ask, loaded]
    exact .missing rfl none sound
  | @found entry fits there breaksOff_iff =>
    have row : (Store.ofRows catalog.records).row? id = some (entry.record id) :=
      stored.represents.row?_eq there
    obtain ⟨rule, holds⟩ := stored.represents.holds _ (Store.mem_of_row? row)
    rcases previews_of_holds row fits holds .default today maxCount hardEnd with
      ⟨limit, dates, _, _, answered⟩ | ⟨count, refused, _⟩
    · have proper : isProper (.object [("draft_id", .int id), ("version", .int entry.version),
          ("occurrences", datesDocument dates), ("count", .int dates.length)]) = true := by
        simp only [Json.isProper_object, List.forall_mem_cons, isProper_datesDocument,
          Json.isProperText_ofString, true_and]
        exact ⟨rfl, rfl, rfl, List.forall_mem_nil _⟩
      exact answered ▸ .document breaksOff_iff.mp proper
    · obtain ⟨_, _, accepted⟩ :=
        previewBound_ok .default (by decide) (by decide) rule positive hardEnd
      cases accepted.symm.trans refused

end Call

/-! ### Calls that write -/

namespace Call

variable {catalog : Catalog}

/-- **A new draft is shown, or its rule is refused.** -/
theorem endsAt_create (stored : catalog.IsStored) (today : Date) {name : Text}
    (characters : name.chars?.isSome = true) (form : RuleForm) (writable : form.IsWritable) :
    (createDraft name form).EndsAt catalog.records
      ((createDraft name form).answer .default today catalog.records).1 := by
  have commits := commits_create stored .default today name form
  obtain ⟨written, storedName⟩ := Store.storedName_ok characters
  rw [commits.answer]
  unfold Entry.ofDraft
  rcases form.breaksOff_cases writable fun rule => ¬ Fits64 rule.interval with
    ⟨rule, valid, breaks⟩ | ⟨cause, refused, presentable⟩
  · simp only [valid, storedName, bind, Except.bind]
    by_cases fits : Fits64 rule.interval
    · rw [if_pos fits]
      exact .document (fun breaksOff => breaks.mp breaksOff fits) (Entry.isProper_document _ _)
    · rw [if_neg fits]
      exact .failure (breaks.mpr fits)
  · rw [refused]
    exact .refusal refused presentable

/-- **An edit ends with the draft as it is then stored,** if the rule that is made of the entry is
accepted or refused as the call breaks off or not. -/
theorem endsAt_edit (stored : catalog.IsStored) {call : Call} {id expected : Int}
    (writable : Recurrence.IsWritable expected) {breaks : Record → Prop}
    {ruleOf : Entry → Except Error Rule}
    {result : Except Failure Success × Progress}
    (commits : Commits catalog call.status (catalog.edited (.int id) (.int expected) ruleOf) result)
    (asked : call.draft? = some id) (expects : call.expected? = some expected)
    (own : call.BreaksOffAt catalog.records ↔ BreaksOffOn catalog.records id breaks)
    (rules : ∀ entry : Entry, entry.IsStored →
      (∃ rule, ruleOf entry = .ok rule ∧
        (breaks (entry.record id) ↔ entry.version = expected ∧ ¬ Fits64 rule.interval)) ∨
      ∃ cause, ruleOf entry = .error (.rule cause) ∧ call.IsRefusedFor cause ∧
        (cause.IsPresentable ↔ ¬ breaks (entry.record id))) :
    call.EndsAt catalog.records result.1 := by
  have finds := catalog.finds id breaks
  rw [commits.answer]
  unfold Catalog.edited
  generalize catalog.find (.int id) = found at finds ⊢
  cases finds with
  | tooWide breaksOff => exact .failure (own.mpr breaksOff)
  | missing none sound => exact .missing asked none (sound ∘ own.mp)
  | @found entry fits there breaksOff_iff =>
    have inside : entry.record id ∈ catalog.records :=
      Catalog.mem_records.mpr ⟨id, entry, there, rfl⟩
    obtain ⟨_, _, place⟩ := Catalog.entry?_eq_some.mp there
    rcases rules entry (stored entry (List.mem_of_getElem? place)) with
      ⟨rule, valid, breaks_iff⟩ | ⟨cause, refused, refusedFor, presentable⟩
    · have breaks_iff := own.trans (breaksOff_iff.trans breaks_iff)
      simp only [valid, bind, Except.bind]
      rcases entry.edit_int_cases id expected rule with
        ⟨other, edited⟩ | ⟨version, wide, edited⟩ | ⟨_, fits, edited⟩
      · rw [edited, Error.stale_of_isWritable (Value.isWritable_int.mpr writable)]
        exact @EndsAt.stale catalog.records call (entry.record id) expected asked expects inside
          other fun breaksOff => other (breaks_iff.mp breaksOff).1
      · rw [edited]
        exact .failure (breaks_iff.mpr ⟨version, wide⟩)
      · rw [edited]
        exact .document (fun breaksOff => (breaks_iff.mp breaksOff).2 fits)
          ((entry.revise rule).isProper_document id)
    · simp only [refused, bind, Except.bind]
      exact .refusal refusedFor (presentable.trans (not_congr (own.trans breaksOff_iff).symm))

/-- **An update stores the rule of a form, or it is refused.** -/
theorem endsAt_update (stored : catalog.IsStored) (today : Date) (id : Int) {expected : Int}
    (version : Recurrence.IsWritable expected) (form : RuleForm) (writable : form.IsWritable) :
    (updateDraft id expected form).EndsAt catalog.records
      ((updateDraft id expected form).answer .default today catalog.records).1 := by
  refine endsAt_edit stored version (commits_update stored .default today id expected form) rfl rfl
    Iff.rfl fun entry _ => ?_
  rcases form.breaksOff_cases writable
      fun rule => entry.version = expected ∧ ¬ Fits64 rule.interval with
    ⟨rule, valid, breaks⟩ | ⟨cause, refused, presentable⟩
  · exact Or.inl ⟨rule, valid, breaks⟩
  · exact Or.inr ⟨cause, refused, refused, presentable⟩

/-- **A switch stores a rule of another kind, unless there is no such kind.** -/
theorem endsAt_switch (stored : catalog.IsStored) (today : Date) (id : Int) {expected : Int}
    (version : Recurrence.IsWritable expected) (kind : Text) (anchor : Option Date) :
    (switchDraft id expected kind anchor).EndsAt catalog.records
      ((switchDraft id expected kind anchor).answer .default today catalog.records).1 := by
  refine endsAt_edit stored version (commits_switch stored .default today id expected kind anchor)
    rfl rfl Iff.rfl fun entry own => ?_
  rcases Draft.switched_cases entry.rule kind anchor with
    ⟨proper, pattern, valid⟩ | ⟨cause, unknown, presentable, refused⟩
  -- The interval stays the one that has been stored before.
  · exact Or.inl ⟨_, valid, iff_of_false (not_not_intro proper) fun wide => wide.2 own.fits⟩
  · exact Or.inr ⟨cause, refused, unknown, presentable.trans not_not.symm⟩

/-- **Every answer to a call about drafts comes about in one of the ways.** -/
theorem endsAt {call : Call} (about : call.IsAboutDrafts) (writable : call.IsWritable)
    (inRange : call.IsInRange .default) (stored : catalog.IsStored) (today : Date) :
    call.EndsAt catalog.records (call.answer .default today catalog.records).1 := by
  cases call with
  | listDrafts => exact endsAt_list stored today
  | createDraft name form => exact endsAt_create stored today inRange.1 form writable
  | getDraft id => exact endsAt_get stored today id
  | updateDraft id expected form =>
    exact endsAt_update stored today id writable.1 form writable.2
  | switchDraft id expected kind anchor => exact endsAt_switch stored today id writable kind anchor
  | previewDraft id maxCount hardEnd =>
    exact endsAt_preview stored today id (fun count asked => (inRange count asked).1) hardEnd
  | health | validate | defaults | preview | calendar | nthWeekday => exact about.elim

end Call

/-! ### Responses -/

/-- A response that denies access to a draft: it carries the message of the cause. -/
def Response.Denies (response : Response) (status : Nat) (cause : StoreError) : Prop :=
  response.Carries status (.object [("detail", .text cause.message)])

/-- A response that names a draft by its number can be written. -/
theorem Response.denies_of {cause : StoreError} {status : Nat} (log : List LogEntry)
    (proper : isProperText cause.message = true) :
    (ofAnswer (.error (.refused status (.text cause.message))) log).Denies status cause := by
  refine carries_of (Json.isProper_object.mpr fun entry inside => ?_)
  cases List.mem_singleton.mp inside
  exact ⟨Json.isProperText_ofString _, proper⟩

/-- What a finished response about drafts is like: a document, the refusal of a rule, no draft with
the number, or another version of it. -/
inductive Call.Responds (rows : List Record) (call : Call) (response : Response) : Prop
  | document (document : Value) (carries : response.Carries call.status document)
  | refusal (cause : RuleError) (refused : call.IsRefusedFor cause)
      (refuses : response.Refuses cause)
  | missing (id : Int) (asked : call.draft? = some id) (none : ∀ row ∈ rows, row.id ≠ id)
      (denies : response.Denies 404 (.notFound (.int id)))
  | stale (row : Record) (expected : Int) (asked : call.draft? = some row.id)
      (expects : call.expected? = some expected) (inside : row ∈ rows)
      (other : row.version ≠ expected)
      (denies : response.Denies 409 (.staleVersion row.id row.version (.int expected)))

namespace Call.EndsAt

variable {rows : List Record} {call : Call} {answer : Except Failure Success}

theorem brokenOff (ends : call.EndsAt rows answer) (breaks : call.BreaksOffAt rows)
    (log : List LogEntry) : Response.ofAnswer answer log = .brokenOff log := by
  cases ends with
  | document sound | missing _ _ sound | stale _ _ _ _ sound => exact absurd breaks sound
  | refusal _ presentable =>
    exact Response.brokenOff_of fun shown => presentable.mp shown breaks
  | failure => rfl

theorem responds (ends : call.EndsAt rows answer) (sound : ¬ call.BreaksOffAt rows)
    (log : List LogEntry) : call.Responds rows (Response.ofAnswer answer log) := by
  cases ends with
  | document _ proper => exact .document _ (Response.carries_of proper)
  | refusal refused presentable =>
    exact .refusal _ refused (Response.refuses_of (presentable.mpr sound))
  | missing asked none =>
    refine .missing _ asked none (Response.denies_of log ?_)
    simp [StoreError.message, Value.plain, Value.isProperText_display]
  | stale asked expects inside other =>
    refine .stale _ _ asked expects inside other (Response.denies_of log ?_)
    simp [StoreError.message, Value.plain, Value.isProperText_display]
  | failure breaks => exact absurd breaks sound

end Call.EndsAt

/-- **After any requests, a request about drafts is responded to with a document, or with the reason
why a rule is refused, or why there is no access to the draft,** unless it breaks off. -/
theorem drafts_answered {rows : List Record} (reached : Reached .default rows) {request : Request}
    {call : Call} (made : request.Makes .default call) (about : call.IsAboutDrafts) (today : Date) :
    (call.BreaksOffAt rows → ∃ log, (respond .default today rows request).1 = .brokenOff log) ∧
      (¬ call.BreaksOffAt rows → call.Responds rows (respond .default today rows request).1) := by
  obtain ⟨catalog, stored, rfl⟩ := reached.exists_catalog
  have ends := Call.endsAt about made.isWritable made.isInRange stored today
  rw [respond_of_makes made]
  exact ⟨fun breaks => ⟨_, ends.brokenOff breaks _⟩, fun sound => ends.responds sound _⟩

/-- A request for a draft of a yearly rule from 2026-03-01 on. -/
def marchDraft (interval : Int) : Request :=
  posted "/api/rule-drafts" (marchRequest interval [("name", .text "Backup")])

theorem makes_marchDraft {interval : Int} (writable : IsWritable interval) :
    (marchDraft interval).Makes .default (.createDraft "Backup" (marchForm interval)) :=
  Request.makes_posted .createDraft nofun
    (isWritable_marchRequest writable (List.forall_mem_singleton.mpr rfl)) (by decide +kernel) rfl
    rfl

/-- The rows once there is a draft for every first of March. -/
def marchRows : List Record := (respond .default everyMarch.startDate [] (marchDraft 1)).2

/-- Another one may be made then. -/
theorem drafts_everyMarch :
    Reached .default marchRows ∧
      (marchDraft 1).Makes .default (.createDraft "Backup" (marchForm 1)) ∧
      (Call.createDraft "Backup" (marchForm 1)).IsAboutDrafts ∧
      ¬ (Call.createDraft "Backup" (marchForm 1)).BreaksOffAt marchRows ∧
      ∃ document, (respond .default everyMarch.startDate marchRows (marchDraft 1)).1.Carries 201
        document := by
  have valid : (marchForm 1).toDraft.toRule = .ok everyMarch := Draft.toRule_ofRule everyMarch
  have reached : Reached .default marchRows :=
    Reached.start.answered everyMarch.startDate (marchDraft 1)
  have made := makes_marchDraft isWritable_one
  have sound : ¬ (Call.createDraft "Backup" (marchForm 1)).BreaksOffAt marchRows := by
    rintro (improper | ⟨rule, valid', wide⟩)
    · exact improper rfl
    · cases valid.symm.trans valid'
      exact wide (by decide)
  have answered := (drafts_answered reached made trivial everyMarch.startDate).2 sound
  refine ⟨reached, made, trivial, sound, ?_⟩
  cases answered with
  | document document carries => exact ⟨document, carries⟩
  | refusal cause refused => cases valid.symm.trans refused
  | missing _ asked | stale _ _ asked => cases asked

/-- The request makes a call about drafts, but is never answered, whatever requests came before. -/
def Request.BreaksOffAlways (request : Request) (call : Call) : Prop :=
  request.Makes .default call ∧ call.IsAboutDrafts ∧
    ∀ rows, Reached .default rows → ∀ today,
      ∃ log, (respond .default today rows request).1 = .brokenOff log

theorem Request.breaksOffAlways {request : Request} {call : Call}
    (made : request.Makes .default call) (about : call.IsAboutDrafts)
    (breaks : ∀ rows, call.BreaksOffAt rows) : request.BreaksOffAlways call := by
  refine ⟨made, about, fun rows reached today => ?_⟩
  obtain ⟨catalog, stored, rfl⟩ := reached.exists_catalog
  rw [respond_of_makes made]
  exact ⟨_, (Call.endsAt about made.isWritable made.isInRange stored today).brokenOff (breaks _) _⟩

/-- The number of a draft and an interval that do not fit into a stored integer, and a kind that
cannot be written, each of them in a request that is never answered. -/
theorem drafts_breaking :
    (⟨"GET", "/api/rule-drafts/9223372036854775808", none, .absent⟩ : Request).BreaksOffAlways
        (.getDraft 9223372036854775808) ∧
      (marchDraft 9223372036854775808).BreaksOffAlways
        (.createDraft "Backup" (marchForm 9223372036854775808)) ∧
      (posted "/api/rule-drafts" (.object [("name", .text "Backup"),
        ("rule", .object [("recurrence_type", .text halfKind),
          ("start_date", .text "2026-03-01")])])).BreaksOffAlways
            (.createDraft "Backup" { marchForm 1 with recurrenceType := halfKind }) := by
  have wide : ¬ Fits64 9223372036854775808 := by decide
  have writable : IsWritable 9223372036854775808 := by
    have large := word_le_pow_maxDigits
    unfold IsWritable
    omega
  let rule : Rule :=
    { everyMarch with interval := 9223372036854775808, one_le_interval := by decide }
  have valid : (marchForm 9223372036854775808).toDraft.toRule = .ok rule :=
    Draft.toRule_ofRule rule
  have improper : ¬ isProperText halfKind := by decide
  refine ⟨?_, ?_, ?_⟩
  · exact Request.breaksOffAlways ⟨.getDraft "9223372036854775808", _, by decide +kernel, rfl, rfl⟩
      trivial fun rows => Or.inl wide
  · exact Request.breaksOffAlways (makes_marchDraft writable) trivial
      fun rows => Or.inr ⟨rule, valid, wide⟩
  · exact Request.breaksOffAlways (Request.makes_posted .createDraft nofun rfl (by decide +kernel)
      rfl rfl) trivial fun rows => Or.inl improper

end Service

end Recurrence
