/-
**Previews of forms and of stored drafts.**

Dates can be asked for with a form, or with the number of a draft that has been stored. The one
takes the rule from the form, the other one reads it back from the columns of a row, whatever was
stored there before. Both show the same dates and the same count.

* `Call.Stores`: the calls that give a draft the rule of a form;
* `Call.Stores.commits`: such a call commits an entry with that rule;
* `ShowsDates`: an answer with the dates of a rule, under the bound of a preview;
* `showsDates_form`, `showsDates_stored`: both kinds of preview give such an answer;
* `previews_agree`: the responses to the two.
-/
import Recurrence.Proofs.Service.Drafts

namespace Recurrence

/-- The rule of an entry is the one that it is revised by. -/
theorem Entry.rule_revise (entry : Entry) (rule : Rule) : (entry.revise rule).rule = rule := by
  unfold revise
  split
  · rename_i same
    exact same.symm
  · rfl

namespace Service

open Json (isProper)

/-! ### Storing the rule of a form -/

/-- The call gives the draft with a number the rule of a form: it creates the draft, or it updates
the draft and expects the version that it has. -/
inductive Call.Stores (rows : List Record) (form : RuleForm) : Int → Call → Prop
  | create (name : Text) : Stores rows form (rows.length + 1) (.createDraft name form)
  | update {row : Record} (inside : row ∈ rows) :
    Stores rows form row.id (.updateDraft row.id row.version form)

/-- **Such a call commits an entry with the rule of the form.** -/
theorem Call.Stores.commits {catalog : Catalog} {form : RuleForm} {rule : Rule} {id : Int}
    {call : Call} (stores : call.Stores catalog.records form id) (stored : catalog.IsStored)
    {settings : Settings} (inRange : call.IsInRange settings)
    (valid : form.toDraft.toRule = .ok rule) (fits : Fits64 rule.interval) (narrow : Fits64 id)
    (today : Date) :
    ∃ entry : Entry, entry.rule = rule ∧ entry.IsStored ∧ (1 ≤ id ∧ id ≤ catalog.length + 1) ∧
      Commits catalog call.status (.ok (id, entry))
        (call.answer settings today catalog.records) := by
  cases stores with
  | create name =>
    obtain ⟨string, storedName⟩ := Store.storedName_ok inRange.1
    have made : Entry.ofDraft (.text name) form.toDraft = .ok ⟨string, 1, rule⟩ := by
      unfold Entry.ofDraft
      simp only [valid, storedName, bind, Except.bind, if_pos fits]
      rfl
    have commits := commits_create stored settings today name form
    rw [made] at commits
    rw [Catalog.length_records]
    exact ⟨_, rfl, Entry.isStored_of_ofDraft made, by omega, commits⟩
  | update inside =>
    obtain ⟨id, former, there, rfl⟩ := Catalog.mem_records.mp inside
    obtain ⟨_, first, place⟩ := Catalog.entry?_eq_some.mp there
    have last := (List.getElem?_eq_some_iff.mp place).1
    have found : catalog.find (.int id) = .ok (id, former) :=
      Store.lookup_eq_ok.mpr ⟨id, rfl, narrow, there⟩
    have edited : former.edit id (.int former.version) rule = .ok (former.revise rule) := by
      rcases former.edit_int_cases id former.version rule with
        ⟨other, _⟩ | ⟨_, wide, _⟩ | ⟨_, _, edited⟩
      · exact absurd rfl other
      · exact absurd fits wide
      · exact edited
    have commits := commits_update stored settings today id former.version form
    have change : catalog.edited (.int id) (.int former.version) (fun _ => form.toDraft.toRule) =
        .ok (id, former.revise rule) := by
      unfold Catalog.edited
      simp only [found, valid, edited, bind, Except.bind]
      rfl
    rw [change] at commits
    have own := stored former (List.mem_of_getElem? place)
    refine ⟨former.revise rule, former.rule_revise rule, own.edit edited, ?_, commits⟩
    show 1 ≤ id ∧ id ≤ catalog.length + 1
    omega

/-! ### Answers with dates -/

/-- The answer shows the dates of a rule under the bound of a preview, and how many there are. If
the count for it is refused, it breaks off. -/
inductive ShowsDates (settings : Settings) (rule : Rule) (maxCount : Option Int)
    (hardEnd : Option Date) : Except Failure Success → Prop
  | dates {limit : Bound} {dates : List Date} {document : Value}
    (accepted : previewBound settings rule maxCount hardEnd = .ok limit)
    (produced : rule.dates limit = .ok dates) (proper : isProper document = true)
    (occurrences : document.entry? "occurrences" = some (datesDocument dates))
    (count : document.entry? "count" = some (.int dates.length)) :
    ShowsDates settings rule maxCount hardEnd (.ok ⟨200, document⟩)
  | refused {cause : Error} (refused : previewBound settings rule maxCount hardEnd = .error cause) :
    ShowsDates settings rule maxCount hardEnd (.error (.broken cause))

variable {rule : Rule}

/-- **A preview of a form shows the dates of its rule.** -/
theorem showsDates_form {form : RuleForm} (valid : form.toDraft.toRule = .ok rule)
    (fits : Fits64 rule.interval) (settings : Settings) (today : Date) (rows : List Record)
    (maxCount : Option Int) (hardEnd : Option Date) : ShowsDates settings rule maxCount hardEnd
      ((Call.preview form maxCount hardEnd).answer settings today rows).1 := by
  rw [Call.answer_eq, Call.handle]
  simp only [Handler.outcome_bind, valid, outcome_settle_ok]
  rcases previewBound_cases settings rule maxCount hardEnd with
    ⟨count, one_le, accepted⟩ | ⟨count, refused⟩
  · have counted : CountLimit.whole count one_le ≠ .unlimited := fun same => by cases same
    obtain ⟨sequence, produced, dates⟩ := Rule.exists_sequence fits counted hardEnd
    simp only [accepted, outcome_settle_ok, outcome_generated produced, outcome_pure]
    refine .dates accepted dates ?_ rfl rfl
    simp only [Json.isProper_object, List.forall_mem_cons, isProper_datesDocument,
      Json.isProperText_ofString, true_and]
    exact ⟨rfl, rfl, List.forall_mem_nil _⟩
  · simp only [refused, outcome_settle_error, Foreseen.failure_refusal]
    exact .refused refused

/-- **A preview of a stored draft shows the dates of its rule.** -/
theorem showsDates_stored {catalog : Catalog} (stored : catalog.IsStored) {id : Int} {entry : Entry}
    (there : catalog.entry? id = some (id, entry)) (narrow : Fits64 id) (settings : Settings)
    (today : Date) (maxCount : Option Int) (hardEnd : Option Date) :
    ShowsDates settings entry.rule maxCount hardEnd
      ((Call.previewDraft id maxCount hardEnd).answer settings today catalog.records).1 := by
  have row : (Store.ofRows catalog.records).row? id = some (entry.record id) :=
    stored.represents.row?_eq there
  obtain ⟨_, _, place⟩ := Catalog.entry?_eq_some.mp there
  have own := stored entry (List.mem_of_getElem? place)
  have holds : (entry.record id).Holds entry.rule := ⟨rfl, own.fits, own.version⟩
  rcases previews_of_holds row narrow holds settings today maxCount hardEnd with
    ⟨limit, dates, accepted, produced, answered⟩ | ⟨count, refused, answered⟩
  · refine answered ▸ .dates accepted produced ?_ rfl rfl
    simp only [Json.isProper_object, List.forall_mem_cons, isProper_datesDocument,
      Json.isProperText_ofString, true_and]
    exact ⟨rfl, rfl, rfl, List.forall_mem_nil _⟩
  · exact answered ▸ .refused refused

/-! ### Responses -/

/-- A response that shows occurrences and their count. -/
def Response.Shows (response : Response) (occurrences count : Value) : Prop :=
  ∃ document, response.Carries 200 document ∧
    document.entry? "occurrences" = some occurrences ∧ document.entry? "count" = some count

namespace Response

variable {occurrences count : Value}

/-- A response carries one document only. -/
theorem shows_iff {response : Response} {document : Value}
    (carries : response.Carries 200 document) :
    response.Shows occurrences count ↔
      document.entry? "occurrences" = some occurrences ∧ document.entry? "count" = some count := by
  refine ⟨?_, fun entries => ⟨document, carries, entries⟩⟩
  rintro ⟨other, carries', entries⟩
  cases carries.2.1.symm.trans carries'.2.1
  exact entries

theorem not_shows_brokenOff (log : List LogEntry) : ¬ (brokenOff log).Shows occurrences count := by
  rintro ⟨_, ⟨status, _⟩, _⟩
  cases status

end Response

/-- **Answers with the dates of one rule under one bound make responses that show the same.** -/
theorem ShowsDates.agree {settings : Settings} {maxCount : Option Int} {hardEnd : Option Date}
    {answer other : Except Failure Success}
    (shows : ShowsDates settings rule maxCount hardEnd answer)
    (shows' : ShowsDates settings rule maxCount hardEnd other) (log log' : List LogEntry)
    (occurrences count : Value) :
    (Response.ofAnswer answer log).Shows occurrences count ↔
      (Response.ofAnswer other log').Shows occurrences count := by
  cases shows with
  | dates accepted produced proper dates number =>
    cases shows' with
    | dates accepted' produced' proper' dates' number' =>
      cases accepted.symm.trans accepted'
      cases produced.symm.trans produced'
      unfold Response.ofAnswer
      rw [Response.shows_iff (Response.carries_of proper),
        Response.shows_iff (Response.carries_of proper'), dates, dates', number, number']
    | refused refused' => cases accepted.symm.trans refused'
  | refused refused =>
    cases shows' with
    | dates accepted' => cases refused.symm.trans accepted'
    | refused =>
      exact iff_of_false (Response.not_shows_brokenOff log) (Response.not_shows_brokenOff log')

/-- **A draft that is given the rule of a form is previewed like the form.** Whatever requests came
before, the draft is created or updated, and then its preview shows the same occurrences and the
same count as that of the form under the same bounds, which are the dates of the rule. -/
theorem previews_agree {settings : Settings} {rows : List Record} (reached : Reached settings rows)
    {form : RuleForm} (valid : form.toDraft.toRule = .ok rule) (fits : Fits64 rule.interval)
    {call : Call} {id : Int} (stores : call.Stores rows form id) (narrow : Fits64 id)
    {write direct stored : Request} {maxCount : Option Int} {hardEnd : Option Date}
    (writes : write.Makes settings call)
    (asksForm : direct.Makes settings (.preview form maxCount hardEnd))
    (asksStored : stored.Makes settings (.previewDraft id maxCount hardEnd))
    (today tomorrow later : Date) (elsewhere : List Record) :
    let written := respond settings today rows write
    let previewed := respond settings tomorrow elsewhere direct
    let previewedStored := respond settings later written.2 stored
    (∃ document, written.1.Carries call.status document ∧
      document.entry? "id" = some (.int id)) ∧
    (∀ occurrences count,
      previewed.1.Shows occurrences count ↔ previewedStored.1.Shows occurrences count) ∧
    (1 ≤ settings.defaultPreviewCount → 1 ≤ settings.maxPreviewCount →
      ∃ limit dates, previewBound settings rule maxCount hardEnd = .ok limit ∧
        rule.dates limit = .ok dates ∧
        previewed.1.Shows (datesDocument dates) (.int dates.length)) := by
  intro written previewed previewedStored
  obtain ⟨catalog, isStored, rfl⟩ := reached.exists_catalog
  obtain ⟨entry, rfl, own, ⟨first, inside⟩, commits⟩ :=
    stores.commits isStored writes.isInRange valid fits narrow today
  have rows : written.2 = (catalog.put id entry).records := by
    show (respond settings today catalog.records write).2 = _
    rw [respond_of_makes writes]
    exact commits.rows
  -- Both previews are of the same rule, so it does not matter how each of them came by it.
  have shows := showsDates_form valid fits settings tomorrow elsewhere maxCount hardEnd
  have shows' := showsDates_stored (isStored.put own) (Catalog.entry?_put first inside entry)
    narrow settings later maxCount hardEnd
  refine ⟨⟨entry.document id, ?_, rfl⟩, fun occurrences count => ?_, fun usual most => ?_⟩
  · show (respond settings today catalog.records write).1.Carries _ _
    rw [respond_of_makes writes, commits.answer]
    exact Response.carries_of (entry.isProper_document id)
  · show (respond settings tomorrow elsewhere direct).1.Shows _ _ ↔
      (respond settings later written.2 stored).1.Shows _ _
    rw [rows, respond_of_makes asksForm, respond_of_makes asksStored]
    exact shows.agree shows' _ _ occurrences count
  · obtain ⟨count, one_le, accepted⟩ := previewBound_ok settings usual most entry.rule
      (fun count asked => (asksForm.isInRange count asked).1) hardEnd
    show ∃ limit dates, _ ∧ _ ∧ (respond settings tomorrow elsewhere direct).1.Shows _ _
    rw [respond_of_makes asksForm]
    generalize ((Call.preview form maxCount hardEnd).answer settings tomorrow elsewhere).1 = answer
      at shows ⊢
    cases shows with
    | dates accepted produced proper dates number =>
      exact ⟨_, _, accepted, produced, _, Response.carries_of proper, dates, number⟩
    | refused refused => cases accepted.symm.trans refused

/-- A request for the preview of the first draft. -/
def firstPreview : Request := ⟨"GET", "/api/rule-drafts/1/preview", none, .absent⟩

/-- A draft for every first of March is previewed like its form. -/
theorem previews_agree_everyMarch :
    (marchDraft 1).Makes .default (.createDraft "Backup" (marchForm 1)) ∧
      (marchPreview 1).Makes .default (.preview (marchForm 1) none none) ∧
      firstPreview.Makes .default (.previewDraft 1 none none) ∧
      ∃ limit dates, everyMarch.dates limit = .ok dates ∧
        (respond .default everyMarch.startDate
          (respond .default everyMarch.startDate [] (marchDraft 1)).2 firstPreview).1.Shows
            (datesDocument dates) (.int dates.length) := by
  have valid : (marchForm 1).toDraft.toRule = .ok everyMarch := Draft.toRule_ofRule everyMarch
  have writes := makes_marchDraft isWritable_one
  have asksForm := makes_marchPreview isWritable_one
  have asksStored : firstPreview.Makes .default (.previewDraft 1 none none) :=
    ⟨.previewDraft "1", none, by decide +kernel, rfl, rfl⟩
  obtain ⟨_, same, shown⟩ := previews_agree .start valid (by decide) (.create "Backup") (by decide)
    writes asksForm asksStored everyMarch.startDate everyMarch.startDate
    everyMarch.startDate []
  obtain ⟨limit, dates, _, produced, shows⟩ := shown (by decide) (by decide)
  exact ⟨writes, asksForm, asksStored, limit, dates, produced, (same _ _).mp shows⟩

end Service

end Recurrence
