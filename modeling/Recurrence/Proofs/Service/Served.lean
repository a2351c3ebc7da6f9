/-
**What is served is accepted back.**

A draft is served with its name and its rule. The two can be posted again: that creates another
draft, at version 1, with the same name and the same rule. Only the empty name is not accepted. A
draft has it when the name that was asked for is made of blanks, since the length of a name is
looked at before the blanks around it are taken away.

* `servedDraft`: the document of a draft;
* `get_served`: a stored draft is served as its entry;
* `Request.PostsDraft.makes`: a served name and a served rule are accepted;
* `Request.PostsDraft.refused`: the empty name is refused;
* `served_accepted`: what comes of posting what is served.
-/
import Recurrence.Proofs.Service.Drafts
import Recurrence.Proofs.Service.Forms
import Recurrence.Proofs.Service.Names

namespace Recurrence.Service

/-! ### Served drafts -/

/-- A draft as it is served. -/
def servedDraft (id : Int) (name : Value) (version : Int) (rule : Value) : Value :=
  .object [("id", .int id), ("name", name), ("version", .int version), ("rule", rule)]

/-- **A stored draft is served as its entry.** -/
theorem get_served {catalog : Catalog} (stored : catalog.IsStored) {id : Int} {entry : Entry}
    (there : catalog.entry? id = some (id, entry)) (narrow : Fits64 id) (settings : Settings)
    (today : Date) :
    ((Call.getDraft id).answer settings today catalog.records).1 =
      .ok ⟨200, entry.document id⟩ := by
  have found : catalog.find (.int id) = .ok (id, entry) :=
    Store.lookup_eq_ok.mpr ⟨id, rfl, narrow, there⟩
  have loaded := load_ofRows stored (.int id)
  rw [found] at loaded
  rw [Call.answer_eq, Call.handle]
  simp only [Handler.outcome_bind, outcome_ask, loaded, Except.map, outcome_settle_ok,
    recordDocument_record, outcome_pure]

/-! ### Posted drafts -/

/-- **What is shown of a form is accepted as the form, with whatever name is.** -/
theorem Endpoint.call_createDraft {document name : Value} {form : RuleForm}
    (named : document.entry? "name" = some name)
    (ruled : document.entry? "rule" = some (draftDocument form.toDraft)) (settings : Settings)
    (query : Parts) : Endpoint.createDraft.call settings query (some document) =
      Call.createDraft
        <$> Reader.textOfLength 1 255 [.name "body", .name "name"] name
        <*> .accepted form := by
  cases document with
  | object entries =>
    let parts : Parts := ⟨[.name "body"], entries, .object entries⟩
    have name? : entryNamed? "name" parts.entries = some name := named
    have rule? : entryNamed? "rule" parts.entries = some (draftDocument form.toDraft) := ruled
    show Call.createDraft <$> field parts "name" (.textOfLength 1 255) <*>
      field parts "rule" ruleForm = _
    rw [field_of_entry name?, field_of_entry rule?, ruleForm_draftDocument]
    rfl
  | _ => cases named

/-- The request posts a document to where drafts are created. -/
def Request.PostsDraft (request : Request) (document : Value) : Prop :=
  Endpoint.find (String.ofList (request.method.toList.flatMap Text.capitals))
      (Target.ofWritten request.target).path = .ok .createDraft ∧
    request.body.read = .ok (some document)

/-- A response that refuses parts of a request. -/
def Response.RefusesParts (response : Response) (errors : List FieldError) : Prop :=
  response.status = 422 ∧ response.content = .refusedParts errors ∧ response.finished = true

namespace Request.PostsDraft

variable {request : Request} {document : Value} {form : RuleForm}

theorem makes (posts : request.PostsDraft document) {name : Text}
    (named : document.entry? "name" = some (.text name))
    (ruled : document.entry? "rule" = some (draftDocument form.toDraft))
    (characters : name.chars?.isSome = true) (long : 1 ≤ name.length) (short : name.length ≤ 255)
    (settings : Settings) : request.Makes settings (.createDraft name form) := by
  obtain ⟨found, read⟩ := posts
  refine ⟨.createDraft, some document, found, read, ?_⟩
  rw [Endpoint.call_createDraft named ruled,
    Reader.textOfLength_accepted_iff.mpr ⟨rfl, characters, long, short⟩]
  rfl

/-- **The empty name is refused as too short,** whatever the rule is. -/
theorem refused (posts : request.PostsDraft document)
    (named : document.entry? "name" = some (.text ""))
    (ruled : document.entry? "rule" = some (draftDocument form.toDraft)) (settings : Settings)
    (today : Date) (rows : List Record) :
    (respond settings today rows request).1.RefusesParts
        [⟨[.name "body", .name "name"], .stringTooShort, .text ""⟩] ∧
      (respond settings today rows request).2 = rows := by
  obtain ⟨found, read⟩ := posts
  have method := Endpoint.ne_head_of_find found
  have read' : (if Endpoint.createDraft.hasBody then request.body else .absent).read =
      .ok (some document) := read
  have tooShort : Reader.textOfLength 1 255 [.name "body", .name "name"] (.text "") =
      .refused [⟨[.name "body", .name "name"], .stringTooShort, .text ""⟩] := rfl
  unfold respond respondAt
  simp only [found, read', Endpoint.call_createDraft named ruled, tooShort, if_neg method]
  exact ⟨⟨rfl, rfl, rfl⟩, rfl⟩

end Request.PostsDraft

/-! ### Posting what is served -/

/-- A draft that is created is served as its entry, which is the last one. -/
theorem created {catalog : Catalog} (stored : catalog.IsStored) {settings : Settings}
    {request : Request} {name : Text} {form : RuleForm} {entry : Entry}
    (makes : request.Makes settings (.createDraft name form))
    (made : Entry.ofDraft (.text name) form.toDraft = .ok entry) (today : Date) :
    (respond settings today catalog.records request).1.Carries 201
        (entry.document (catalog.length + 1)) ∧
      (respond settings today catalog.records request).2 =
        catalog.records ++ [entry.record (catalog.length + 1)] := by
  have commits := Call.commits_create stored settings today name form
  rw [made] at commits
  rw [respond_of_makes makes, commits.answer, commits.rows]
  exact ⟨Response.carries_of (entry.isProper_document _), catalog.records_put_new entry⟩

/-- **The name and the rule of an entry make the entry again, at version 1.** -/
theorem ofDraft_ofRule {entry : Entry} (own : entry.IsStored) (named : IsName entry.name) :
    Entry.ofDraft (.text entry.name) (.ofRule entry.rule) = .ok { entry with version := 1 } := by
  unfold Entry.ofDraft
  simp only [Draft.toRule_ofRule, named.storedName, bind, Except.bind, if_pos own.fits]
  rfl

/-- **They make another draft when they are posted,** unless the name is empty. -/
theorem Request.PostsDraft.creates {request : Request} {document : Value}
    (posts : request.PostsDraft document) {catalog : Catalog} (stored : catalog.IsStored)
    {entry : Entry} (own : entry.IsStored) (isName : IsName entry.name) (filled : entry.name ≠ "")
    (named : document.entry? "name" = some (.text entry.name))
    (ruled : document.entry? "rule" = some (draftDocument (.ofRule entry.rule)))
    (settings : Settings) (today : Date) :
    (respond settings today catalog.records request).1.Carries 201
        (Entry.document { entry with version := 1 } (catalog.length + 1)) ∧
      (respond settings today catalog.records request).2 =
        catalog.records ++ [Entry.record { entry with version := 1 } (catalog.length + 1)] := by
  have characters : (Text.ofString entry.name).chars?.isSome = true := by
    rw [Text.ofString, Text.chars?_ofChars]
    rfl
  have long : 1 ≤ (Text.ofString entry.name).length := by
    refine Nat.one_le_iff_ne_zero.mpr fun none => filled (String.toList_eq_nil_iff.mp ?_)
    exact List.map_eq_nil_iff.mp (List.length_eq_zero_iff.mp none)
  rw [← RuleForm.toDraft_ofRule] at ruled
  have makes := posts.makes named ruled characters long isName.short settings
  have made := ofDraft_ofRule own isName
  rw [← RuleForm.toDraft_ofRule] at made
  exact created stored makes made today

/-- **A draft is served with a name and a rule that make another draft when they are posted,** at
version 1 and with the same name and the same rule, unless the name is empty. The empty name is
refused. -/
theorem served_accepted {settings : Settings} {rows : List Record} (reached : Reached settings rows)
    {row : Record} (inside : row ∈ rows) (narrow : Fits64 row.id) {get : Request}
    (asks : get.Makes settings (.getDraft row.id)) (today : Date) :
    ∃ name rule,
      (respond settings today rows get).1.Carries 200
        (servedDraft row.id name row.version rule) ∧
      ∀ post document, post.PostsDraft document → document.entry? "name" = some name →
        document.entry? "rule" = some rule → ∀ later,
          let responded := respond settings later rows post
          (row.name ≠ "" →
            responded.1.Carries 201 (servedDraft (rows.length + 1) name 1 rule) ∧
              responded.2 = rows ++ [{ row with id := rows.length + 1, version := 1 }]) ∧
          (row.name = "" →
            responded.1.RefusesParts
                [⟨[.name "body", .name "name"], .stringTooShort, .text ""⟩] ∧
              responded.2 = rows) := by
  have own := reached.isName row inside
  obtain ⟨catalog, stored, rfl⟩ := reached.exists_catalog
  obtain ⟨id, entry, there, rfl⟩ := Catalog.mem_records.mp inside
  refine ⟨.text entry.name, draftDocument (.ofRule entry.rule), ?_, ?_⟩
  · rw [respond_of_makes asks]
    show (Response.ofAnswer ((Call.getDraft id).answer settings today catalog.records).1 _).Carries
      200 (entry.document id)
    rw [get_served stored there narrow]
    exact Response.carries_of (entry.isProper_document id)
  · intro post document posts named ruled later responded
    refine ⟨fun filled => ?_, fun empty => ?_⟩
    · obtain ⟨_, _, place⟩ := Catalog.entry?_eq_some.mp there
      have created := posts.creates stored (stored entry (List.mem_of_getElem? place)) own filled
        named ruled settings later
      rw [Catalog.length_records]
      exact created
    · have blank : entry.name = "" := empty
      rw [blank] at named
      rw [← RuleForm.toDraft_ofRule] at ruled
      exact posts.refused named ruled settings later catalog.records

/-- The form of a rule whose interval fits into a machine word can be shown. -/
theorem isWritable_ofRule {rule : Rule} (fits : Fits64 rule.interval) :
    (Draft.ofRule rule).IsWritable := by
  have small {number : Int} (least : 0 ≤ number) (most : number ≤ 31) :
      (Value.int number).isWritable = true := by
    refine Value.isWritable_int.mpr (isWritable_of_fits64 ⟨?_, ?_⟩) <;> omega
  intro field
  cases field with
  | recurrenceType =>
    rw [Draft.get, Draft.ofRule_recurrenceType]
    rfl
  | interval =>
    rw [Draft.get, Draft.ofRule_interval]
    exact Value.isWritable_int.mpr (isWritable_of_fits64 fits)
  | startDate =>
    rw [Draft.get, Draft.ofRule_startDate]
    rfl
  | endDate =>
    rw [Draft.get, Draft.ofRule_endDate]
    cases rule.endDate <;> rfl
  | daysOfWeek =>
    obtain ⟨pattern⟩ := rule
    cases pattern with
    | weekly weekdays =>
      refine Value.isWritable_list.mpr fun item listed => ?_
      obtain ⟨weekday, _, rfl⟩ := List.mem_map.mp listed
      exact small (Int.natCast_nonneg _) (by omega)
    | daily | monthlyByDay | monthlyByWeekday | yearly => rfl
  | monthDay =>
    obtain ⟨pattern⟩ := rule
    cases pattern with
    | monthlyByDay day => exact small (Int.le_trans Int.one_nonneg day.one_le) day.le_last
    | daily | weekly | monthlyByWeekday | yearly => rfl
  | monthWeek =>
    obtain ⟨pattern⟩ := rule
    cases pattern <;> rfl
  | monthWeekDay =>
    obtain ⟨pattern⟩ := rule
    cases pattern with
    | monthlyByWeekday ordinal weekday => exact small (Int.natCast_nonneg _) (by omega)
    | daily | weekly | monthlyByDay | yearly => rfl

/-- So can the document of the rule. -/
theorem isWritable_draftDocument {rule : Rule} (fits : Fits64 rule.interval) :
    (draftDocument (.ofRule rule)).isWritable = true := by
  refine Value.isWritable_object.mpr fun entry inside => ?_
  obtain ⟨field, _, rfl⟩ := List.mem_map.mp inside
  have own := isWritable_ofRule fits field
  simp only []
  unfold writtenField
  split
  · rfl
  · exact own

/-- A request for the first draft. -/
def firstDraft : Request := ⟨"GET", "/api/rule-drafts/1", none, .absent⟩

theorem makes_firstDraft : firstDraft.Makes .default (.getDraft 1) :=
  ⟨.getDraft "1", none, by decide +kernel, rfl, rfl⟩

/-- The only draft is served as its entry. -/
theorem firstDraft_served {entry : Entry} (own : entry.IsStored) (today : Date) :
    (respond .default today (Catalog.records [entry]) firstDraft).1.Carries 200
      (entry.document 1) := by
  have stored : Catalog.IsStored [entry] := List.forall_mem_singleton.mpr own
  have there : Catalog.entry? [entry] 1 = some (1, entry) := rfl
  rw [respond_of_makes makes_firstDraft, get_served stored there (by decide)]
  exact Response.carries_of (entry.isProper_document 1)

/-- The name and the rule of a draft, posted again. -/
def postedAgain (name rule : Value) : Request :=
  posted "/api/rule-drafts" (.object [("name", name), ("rule", rule)])

/-- A name and the rule of an entry can be posted. -/
theorem postsDraft_postedAgain (name : Text) {rule : Rule} (fits : Fits64 rule.interval) :
    (postedAgain (.text name) (draftDocument (.ofRule rule))).PostsDraft
      (.object [("name", .text name), ("rule", draftDocument (.ofRule rule))]) := by
  have found : Endpoint.find (String.ofList ("POST".toList.flatMap Text.capitals))
      (Target.ofWritten "/api/rule-drafts").path = .ok .createDraft := by
    decide +kernel
  have writable : (Value.object [("name", .text name),
      ("rule", draftDocument (.ofRule rule))]).isWritable = true := by
    simp only [Value.isWritable_object, List.forall_mem_cons, isWritable_draftDocument fits,
      true_and]
    exact ⟨rfl, List.forall_mem_nil _⟩
  exact ⟨found, Body.read_document nofun writable⟩

/-- The rows once there is a draft with a name for every first of March. -/
theorem rows_of_march {name : Text} {stored : String}
    (makes : (posted "/api/rule-drafts" (marchRequest 1 [("name", .text name)])).Makes .default
      (.createDraft name (marchForm 1)))
    (named : Store.storedName (.text name) = .ok stored) :
    (respond .default everyMarch.startDate []
        (posted "/api/rule-drafts" (marchRequest 1 [("name", .text name)]))).2 =
      Catalog.records [⟨stored, 1, everyMarch⟩] := by
  have empty : Catalog.IsStored [] := List.forall_mem_nil _
  have valid : (marchForm 1).toDraft.toRule = .ok everyMarch := Draft.toRule_ofRule everyMarch
  have made : Entry.ofDraft (.text name) (marchForm 1).toDraft = .ok ⟨stored, 1, everyMarch⟩ := by
    unfold Entry.ofDraft
    simp only [valid, named, bind, Except.bind]
    rfl
  exact (created empty makes made everyMarch.startDate).2

/-- A draft for every first of March is served, and makes a second one. -/
theorem served_accepted_everyMarch :
    Reached .default marchRows ∧ firstDraft.Makes .default (.getDraft 1) ∧
      ∃ name rule,
        (respond .default everyMarch.startDate marchRows firstDraft).1.Carries 200
          (servedDraft 1 name 1 rule) ∧
        (respond .default everyMarch.startDate marchRows (postedAgain name rule)).1.Carries 201
          (servedDraft 2 name 1 rule) := by
  have reached : Reached .default marchRows :=
    Reached.start.answered everyMarch.startDate (marchDraft 1)
  have rows : marchRows = Catalog.records [⟨"Backup", 1, everyMarch⟩] :=
    rows_of_march (makes_marchDraft isWritable_one) rfl
  rw [rows] at reached ⊢
  obtain ⟨name, rule, served, accepted⟩ :=
    served_accepted reached (List.mem_singleton_self _) (by decide) makes_firstDraft
      everyMarch.startDate
  -- What is served is the document of the entry, so the name and the rule are known.
  have own : Entry.IsStored ⟨"Backup", 1, everyMarch⟩ := ⟨by decide, by decide⟩
  have carried := firstDraft_served own everyMarch.startDate
  have same := Content.document.inj (served.2.1.symm.trans carried.2.1)
  cases same
  have posts := postsDraft_postedAgain "Backup" (by decide : Fits64 everyMarch.interval)
  have responded := accepted _ _ posts rfl rfl everyMarch.startDate
  exact ⟨reached, makes_firstDraft, _, _, served, (responded.1 (by decide)).1⟩

/-- A request for a draft for every first of March, with a blank for its name. -/
def blankDraft : Request :=
  posted "/api/rule-drafts" (marchRequest 1 [("name", .text " ")])

/-- The blank is a name of one character that is stored as the empty name. What is served of the
draft is refused when it is posted. -/
theorem served_blank :
    let rows := (respond .default everyMarch.startDate [] blankDraft).2
    let rule := draftDocument (.ofRule everyMarch)
    Reached .default rows ∧ firstDraft.Makes .default (.getDraft 1) ∧
      (respond .default everyMarch.startDate rows firstDraft).1.Carries 200
        (servedDraft 1 (.text "") 1 rule) ∧
      (respond .default everyMarch.startDate rows (postedAgain (.text "") rule)).1.RefusesParts
        [⟨[.name "body", .name "name"], .stringTooShort, .text ""⟩] := by
  intro rows rule
  have reached : Reached .default rows := Reached.start.answered everyMarch.startDate blankDraft
  have makes : blankDraft.Makes .default (.createDraft " " (marchForm 1)) :=
    Request.makes_posted .createDraft nofun
      (isWritable_marchRequest isWritable_one (List.forall_mem_singleton.mpr rfl))
      (by decide +kernel) rfl rfl
  have same : rows = Catalog.records [⟨"", 1, everyMarch⟩] := rows_of_march makes rfl
  refine ⟨reached, makes_firstDraft, ?_, ?_⟩
  · have own : Entry.IsStored ⟨"", 1, everyMarch⟩ := ⟨by decide, by decide⟩
    rw [same]
    exact firstDraft_served own everyMarch.startDate
  · have posts := postsDraft_postedAgain "" (by decide : Fits64 everyMarch.interval)
    exact (posts.refused rfl
      (congrArg (fun draft => some (draftDocument draft)) (RuleForm.toDraft_ofRule everyMarch).symm)
      .default everyMarch.startDate rows).1

end Recurrence.Service
