/-
**The rows that requests lead to.**

Between requests the service remembers nothing but the rows. After any requests these are the
records of a catalogue of drafts that can be stored. So every call begins in a session that knows
nothing else than what is stored, and a call that writes a draft commits a change of the catalogue.

* `Reached`: the rows that requests lead to;
* `Catalog.IsStored`: a catalogue of drafts that can be stored;
* `Commits`: what it means to commit a change, and `Call.commits_create` and the like that the calls
  do;
* `Reached.exists_catalog`: the rows are the records of a catalogue, after any requests.
-/
import Recurrence.Proofs.Service.Calls
import Recurrence.Proofs.Store.Refinement

namespace Recurrence

/-! ### Catalogues that can be stored -/

/-- A name of characters is stored without the blanks around it. -/
theorem Store.storedName_ofChars (chars : List Char) :
    storedName (.text (.ofChars chars)) = .ok (.ofList (Text.trim Text.isBlank chars)) := by
  have stripped : (Text.ofChars chars).stripped =
      .ofString (.ofList (Text.trim Text.isBlank chars)) := by
    rw [Text.stripped_ofChars, Text.ofString, String.toList_ofList]
  unfold storedName Value.asText
  simp only [mapError_ok, bind, Except.bind, stripped, Text.stored, Text.string?_ofString]

/-- A name of characters can be stored. -/
theorem Store.storedName_ok {name : Text} (characters : name.chars?.isSome = true) :
    ∃ string, storedName (.text name) = .ok string := by
  obtain ⟨chars, read⟩ := Option.isSome_iff_exists.mp characters
  rw [Text.chars?_eq_some_iff.mp read]
  exact ⟨_, storedName_ofChars chars⟩

/-- An entry that can be stored. -/
structure Entry.IsStored (entry : Entry) : Prop where
  fits : Fits64 entry.rule.interval
  version : 1 ≤ entry.version

namespace Entry

theorem isStored_of_ofDraft {name : Value} {draft : Draft} {entry : Entry}
    (made : ofDraft name draft = .ok entry) : entry.IsStored := by
  unfold ofDraft at made
  obtain ⟨rule, _, made⟩ := bind_eq_ok_iff.mp made
  obtain ⟨name, _, made⟩ := bind_eq_ok_iff.mp made
  split at made
  · rename_i fits
    cases made
    exact ⟨fits, Int.le_refl 1⟩
  · cases made

theorem IsStored.edit {entry edited : Entry} (stored : entry.IsStored) {id : Int} {expected : Value}
    {rule : Rule} (made : entry.edit id expected rule = .ok edited) : edited.IsStored := by
  unfold Entry.edit at made
  split at made
  · cases made
  · split at made
    · cases made
    · rename_i fits
      cases made
      unfold revise
      split
      · exact stored
      · exact ⟨Decidable.not_not.mp fits, Int.le_add_one stored.version⟩

end Entry

namespace Catalog

/-- All entries can be stored. -/
def IsStored (catalog : Catalog) : Prop := ∀ entry ∈ catalog, entry.IsStored

variable {catalog : Catalog}

/-- **The records of a catalogue make a store that represents it.** -/
theorem IsStored.represents (stored : catalog.IsStored) :
    (Store.ofRows catalog.records).Represents catalog where
  sound.numbered index record found := by
    obtain ⟨entry, _, rfl⟩ :=
      Option.map_eq_some_iff.mp ((getElem?_records catalog index).symm.trans found)
    rfl
  sound.copies _ _ _ known := by cases known
  holds record inside := by
    obtain ⟨id, entry, found, rfl⟩ := mem_records.mp inside
    obtain ⟨_, _, there⟩ := entry?_eq_some.mp found
    have own := stored entry (List.mem_of_getElem? there)
    exact ⟨entry.rule, rfl, own.fits, own.version⟩
  rows := rfl

theorem IsStored.put (stored : catalog.IsStored) {id : Int} {entry : Entry}
    (own : entry.IsStored) : (catalog.put id entry).IsStored := by
  unfold Catalog.put
  intro other inside
  split at inside
  · rcases List.mem_or_eq_of_mem_set inside with former | rfl
    · exact stored other former
    · exact own
  · rcases List.mem_append.mp inside with former | last
    · exact stored other former
    · rw [List.mem_singleton.mp last]
      exact own

/-- What an edit makes can be stored. -/
theorem IsStored.edited (stored : catalog.IsStored) {id expected : Value}
    {ruleOf : Entry → Except Error Rule} {number : Int} {entry : Entry}
    (made : catalog.edited id expected ruleOf = .ok (number, entry)) : entry.IsStored := by
  unfold Catalog.edited at made
  obtain ⟨⟨number, former⟩, found, made⟩ := bind_eq_ok_iff.mp made
  obtain ⟨rule, _, made⟩ := bind_eq_ok_iff.mp made
  obtain ⟨edited, made, same⟩ := bind_eq_ok_iff.mp made
  cases same
  obtain ⟨_, _, _, there⟩ := Store.lookup_eq_ok.mp found
  obtain ⟨_, _, place⟩ := entry?_eq_some.mp there
  exact (stored former (List.mem_of_getElem? place)).edit made

/-- **A change that makes what can be stored leaves a catalogue that can be stored.** -/
theorem IsStored.outcome (stored : catalog.IsStored) {change : Except Error (Int × Entry)}
    (makes : ∀ number entry, change = .ok (number, entry) → entry.IsStored) :
    ∃ after : Catalog, after.IsStored ∧ (catalog.outcome change).2 = after.records := by
  cases change with
  | error cause => exact ⟨catalog, stored, rfl⟩
  | ok changed =>
    obtain ⟨number, entry⟩ := changed
    exact ⟨catalog.put number entry, stored.put (makes number entry rfl), rfl⟩

end Catalog

theorem Store.isCurrent_ofRows (rows : List Record) (session : Text) :
    (ofRows rows).IsCurrent session :=
  fun _ _ known => by cases known

namespace Service

/-! ### Calls that write -/

/-- What comes of a handler is what comes of a change of a catalogue: the document of the entry that
is written, or the failure, and the rows afterwards. -/
structure Commits (catalog : Catalog) (status : Nat) (change : Except Error (Int × Entry))
    (result : Except Failure Success × Progress) : Prop where
  answer : result.1 = (change.map fun changed => ⟨status, changed.2.document changed.1⟩).mapError
    refusingBoth.failure
  rows : result.2.store.rows = (catalog.outcome change).2

/-- **A draft that is written is shown as its entry.** -/
theorem commits_writtenDraft {catalog : Catalog} {change : Except Error (Int × Entry)}
    {question : Store → Store.Answer Record} {progress : Progress}
    (outcome : ((question progress.store).1, (question progress.store).2.rows) =
      catalog.outcome change) (status : Nat) (event : String) :
    Commits catalog status change ((writtenDraft status event question).outcome progress) := by
  obtain ⟨answered, rows⟩ := Prod.mk.inj outcome
  unfold writtenDraft
  cases change with
  | error cause =>
    have failed : (question progress.store).1 = .error cause := answered
    simp only [Handler.outcome_bind, outcome_ask, failed, outcome_settle_error]
    exact ⟨rfl, rows⟩
  | ok changed =>
    have written : (question progress.store).1 = .ok (changed.2.record changed.1) := answered
    simp only [Handler.outcome_bind, outcome_ask, written, outcome_settle_ok, outcome_note,
      recordDocument_record, outcome_pure]
    exact ⟨rfl, rows⟩

namespace Call

variable {catalog : Catalog} (stored : catalog.IsStored) (settings : Settings) (today : Date)
include stored

/-- **A new draft is a new entry.** -/
theorem commits_create (name : Text) (form : RuleForm) :
    Commits catalog 201
      ((Entry.ofDraft (.text name) form.toDraft).map (Prod.mk (catalog.length + 1)))
      ((createDraft name form).answer settings today catalog.records) :=
  commits_writtenDraft (stored.represents.create_eq _ _ _) 201 "created"

/-- **An update is an edit of the entry.** -/
theorem commits_update (id expected : Int) (form : RuleForm) :
    Commits catalog 200 (catalog.edited (.int id) (.int expected) fun _ => form.toDraft.toRule)
      ((updateDraft id expected form).answer settings today catalog.records) :=
  commits_writtenDraft (stored.represents.edit_eq (Store.isCurrent_ofRows _ _) _ _
    (fun _ _ => rfl) rfl) 200 "updated"

/-- **So is a switch to another kind.** -/
theorem commits_switch (id expected : Int) (kind : Text) (anchor : Option Date) :
    Commits catalog 200
      (catalog.edited (.int id) (.int expected) fun entry => do
        (← (Draft.ofRule entry.rule).switchKind (.text kind) (.ofOption .date anchor)).toRule)
      ((switchDraft id expected kind anchor).answer settings today catalog.records) :=
  commits_writtenDraft (stored.represents.edit_eq (Store.isCurrent_ofRows _ _) _ _
    (fun entry number => Store.switchedRule_record entry number _ _) rfl) 200 "updated"

/-- **A call leaves a catalogue that can be stored.** -/
theorem exists_catalog (call : Call) : ∃ after : Catalog, after.IsStored ∧
    (call.answer settings today catalog.records).2.store.rows = after.records := by
  by_cases writes : call.Writes
  · cases call with
    | createDraft name form =>
      rw [(commits_create stored settings today name form).rows]
      refine stored.outcome fun number entry made => ?_
      cases drafted : Entry.ofDraft (.text name) form.toDraft with
      | error cause =>
        rw [drafted] at made
        cases made
      | ok other =>
        rw [drafted] at made
        cases made
        exact Entry.isStored_of_ofDraft drafted
    | updateDraft id expected form =>
      rw [(commits_update stored settings today id expected form).rows]
      exact stored.outcome fun number entry made => stored.edited made
    | switchDraft id expected kind anchor =>
      rw [(commits_switch stored settings today id expected kind anchor).rows]
      exact stored.outcome fun number entry made => stored.edited made
    | _ => exact writes.elim
  · exact ⟨catalog, stored, Call.keepsRows writes settings today _⟩

end Call

/-! ### Runs of requests -/

/-- A request makes a call, or it leaves the rows as they are. -/
theorem makes_or_respond_rows (settings : Settings) (today : Date) (rows : List Record)
    (request : Request) : (∃ call, request.Makes settings call) ∨
      (respond settings today rows request).2 = rows := by
  let target := Target.ofWritten request.target
  let method := String.ofList (request.method.toList.flatMap Text.capitals)
  cases found : Endpoint.find method target.path with
  | error missing =>
    right
    unfold respond
    simp only [method, target] at found
    simp only [found]
  | ok endpoint =>
    cases read : (if endpoint.hasBody then request.body else .absent).read with
    | error cause =>
      right
      unfold respond respondAt
      simp only [method, target] at found
      cases cause <;> simp only [found, read]
    | ok document =>
      cases checked : endpoint.call settings
          (Endpoint.queryParts (request.parameters.getD target.parameters)) document with
      | refused errors =>
        right
        unfold respond respondAt
        simp only [method, target] at found checked
        simp only [found, read, checked]
      | accepted call => exact Or.inl ⟨call, endpoint, document, found, read, checked⟩

/-- The rows that requests lead to, on whatever days they are made. -/
inductive Reached (settings : Settings) : List Record → Prop
  | start : Reached settings []
  | answered {rows : List Record} (reached : Reached settings rows) (today : Date)
    (request : Request) : Reached settings (respond settings today rows request).2

namespace Reached

variable {settings : Settings} {rows : List Record}

/-- A run of requests goes on to rows that requests lead to. -/
theorem run (reached : Reached settings rows) (today : Date) (requests : List Request) :
    Reached settings (respondAll settings today rows requests).2 := by
  induction requests generalizing rows with
  | nil => exact reached
  | cons request requests ih =>
    have next := reached.answered today request
    unfold respondAll
    generalize respond settings today rows request = responded at next ⊢
    exact ih next

/-- **The rows are the records of a catalogue that can be stored, after any requests.** -/
theorem exists_catalog (reached : Reached settings rows) :
    ∃ catalog : Catalog, catalog.IsStored ∧ rows = catalog.records := by
  induction reached with
  | start => exact ⟨[], List.forall_mem_nil _, rfl⟩
  | @answered rows _ today request ih =>
    obtain ⟨catalog, stored, rfl⟩ := ih
    rcases makes_or_respond_rows settings today catalog.records request with ⟨call, made⟩ | kept
    · rw [respond_of_makes made]
      exact call.exists_catalog stored settings today
    · exact ⟨catalog, stored, kept⟩

end Reached

end Service

end Recurrence
