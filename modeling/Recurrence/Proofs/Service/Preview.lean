/-
**Previews of stored drafts.**

The preview of a stored draft takes the rule from the row without expecting that it be refused, and
produces its dates without expecting that they fail. Neither happens: every row holds a rule, and
the interval of a stored rule is short enough for every year in question to be written.

* `Service.Handler.outcome_bind`: how the parts of a handler follow each other;
* `Rule.exists_sequence`: a stored rule has dates under every bound with a count;
* `Service.previews_of_holds`: what the preview of a stored draft is answered with;
* `Service.stored_canonical`: all that holds of stored drafts after any run.
-/
import Recurrence.Proofs.Sequence.Outcome
import Recurrence.Proofs.Sequence.Unrefused
import Recurrence.Proofs.Store.Canonical
import Recurrence.Service.Answer

namespace Recurrence

/-! ### Dates of stored rules -/

namespace Rule

/-- **A stored interval leads to no year that cannot be reported.** -/
theorem not_isUnreportable_of_fits64 {rule : Rule} (fits : Fits64 rule.interval)
    (maxCount : CountLimit) (hardEnd : Option Date) : ¬ rule.IsUnreportable maxCount hardEnd := by
  have positive := rule.one_le_interval
  have large := word_le_pow_maxDigits
  have upper := fits.2
  intro unreportable
  obtain ⟨_, _, ⟨monthly, _⟩ | ⟨_, unwritable⟩⟩ := isUnreportable_iff.mp unreportable
  · exact not_isUnreportable_of_isMonthly monthly (isWritable_of_fits64 fits) maxCount hardEnd
      unreportable
  · have begun := rule.startDate.one_le_year
    have ended := rule.startDate.year_le
    refine unwritable ?_
    unfold IsWritable
    omega

/-- **A stored rule has dates under every bound with a count.** -/
theorem exists_sequence {rule : Rule} (fits : Fits64 rule.interval) {maxCount : CountLimit}
    (counted : maxCount ≠ .unlimited) (hardEnd : Option Date) :
    ∃ sequence, rule.sequence (.dated maxCount hardEnd) = .ok sequence ∧
      rule.dates (.dated maxCount hardEnd) = .ok sequence.dates := by
  have bounded : rule.IsBounded maxCount hardEnd := Or.inl counted
  have dates := dates_eq_ok bounded (not_isUnreportable_of_fits64 fits maxCount hardEnd)
  obtain ⟨sequence, produced, taken⟩ := exists_sequence_of_dates dates
  rw [← taken] at dates
  exact ⟨sequence, produced, dates⟩

end Rule

namespace Service

/-! ### Handlers -/

variable {α β : Type}

/-- What comes of a handler from some progress on: its result, and the progress afterwards. -/
def Handler.outcome (handler : Handler α) (progress : Progress) : Except Failure α × Progress :=
  handler.run progress

theorem Handler.outcome_bind (handler : Handler α) (next : α → Handler β) (progress : Progress) :
    (handler >>= next).outcome progress =
      match handler.outcome progress with
      | (.ok content, between) => (next content).outcome between
      | (.error failure, between) => (.error failure, between) := by
  show ExceptT.bindCont next (handler.outcome progress).1 (handler.outcome progress).2 = _
  cases handler.outcome progress with
  | mk result between => cases result <;> rfl

theorem outcome_pure (content : α) (progress : Progress) :
    (pure content : Handler α).outcome progress = (.ok content, progress) :=
  rfl

theorem outcome_note (entries : List LogEntry) (progress : Progress) :
    (note entries).outcome progress = (.ok (), { progress with log := progress.log ++ entries }) :=
  rfl

theorem Call.answer_eq (settings : Settings) (today : Date) (rows : List Record) (call : Call) :
    call.answer settings today rows = (call.handle settings today).outcome ⟨.ofRows rows, []⟩ :=
  rfl

theorem outcome_ask (question : Store → Store.Answer α) (progress : Progress) :
    (ask question).outcome progress =
      (.ok (question progress.store).1, { progress with store := (question progress.store).2 }) :=
  rfl

theorem outcome_settle_ok (foreseen : Foreseen) (content : α) (progress : Progress) :
    (settle foreseen (.ok content)).outcome progress = (.ok content, progress) :=
  rfl

/-- How an endpoint fails for a cause. -/
def Foreseen.failure (foreseen : Foreseen) : Error → Failure
  | .rule cause => if foreseen.rules then refusedRule cause else .broken (.rule cause)
  | .store cause => if foreseen.access then refusedAccess cause else .broken (.store cause)
  | cause => .broken cause

theorem outcome_settle_error (foreseen : Foreseen) (cause : Error) (progress : Progress) :
    (settle foreseen (.error cause) : Handler α).outcome progress =
      (.error (foreseen.failure cause), progress) := by
  cases cause <;> rfl

/-- No endpoint foresees that a count is refused. -/
theorem Foreseen.failure_refusal (foreseen : Foreseen) (count : Value) :
    foreseen.failure (CountLimit.refusal count) = .broken (CountLimit.refusal count) := by
  unfold CountLimit.refusal Error.showing
  split <;> rfl

theorem outcome_generated {rule : Rule} {bound : Bound} {sequence : Sequence}
    (produced : rule.sequence bound = .ok sequence) (progress : Progress) :
    (generated rule bound).outcome progress =
      (.ok sequence.dates,
        { progress with log := progress.log ++ sequenceLog rule sequence }) := by
  unfold generated
  rw [produced]
  rfl

/-! ### The preview of a stored draft -/

theorem previewBound_cases (settings : Settings) (rule : Rule) (maxCount : Option Int)
    (hardEnd : Option Date) :
    (∃ (count : Int) (one_le : 1 ≤ count),
      previewBound settings rule maxCount hardEnd = .ok (.dated (.whole count one_le) hardEnd)) ∨
    ∃ count, previewBound settings rule maxCount hardEnd =
      .error (CountLimit.refusal count) := by
  unfold previewBound
  simp only []
  generalize maxCount.getD _ = count
  by_cases valid : 1 ≤ count
  · refine Or.inl ⟨count, valid, ?_⟩
    simp only [CountLimit.ofValue, dif_pos valid]
    rfl
  · refine Or.inr ⟨.int count, ?_⟩
    simp only [CountLimit.ofValue, dif_neg valid]
    rfl

/-- The preview of a row is answered with the dates of a rule, or the count for it is refused. -/
def Previews (settings : Settings) (today : Date) (rows : List Record) (row : Record) (rule : Rule)
    (maxCount : Option Int) (hardEnd : Option Date) : Prop :=
  let bound := previewBound settings rule maxCount hardEnd
  let answer := ((Call.previewDraft row.id maxCount hardEnd).answer settings today rows).1
  (∃ limit dates, bound = .ok limit ∧ rule.dates limit = .ok dates ∧
    answer = .ok ⟨200, .object [("draft_id", .int row.id), ("version", .int row.version),
      ("occurrences", datesDocument dates), ("count", .int dates.length)]⟩) ∨
  ∃ count, bound = .error (CountLimit.refusal count) ∧
    answer = .error (.broken (CountLimit.refusal count))

/-- **The preview of a row that holds a rule is answered with dates of the rule,** unless the count
is refused. -/
theorem previews_of_holds {rows : List Record} {row : Record} {rule : Rule}
    (stored : (Store.ofRows rows).row? row.id = some row) (narrow : Fits64 row.id)
    (holds : row.Holds rule) (settings : Settings) (today : Date) (maxCount : Option Int)
    (hardEnd : Option Date) : Previews settings today rows row rule maxCount hardEnd := by
  have loaded : ((Store.ofRows rows).load session (.int row.id)).1 = .ok row := by
    rw [Store.load_eq_lookup, Store.lookup_eq_ok]
    exact ⟨row.id, rfl, narrow, stored⟩
  unfold Previews
  rw [Call.answer_eq, Call.handle]
  simp only [Handler.outcome_bind, outcome_ask, loaded, outcome_settle_ok, holds.toRule]
  rcases previewBound_cases settings rule maxCount hardEnd with
    ⟨count, one_le, accepted⟩ | ⟨count, refused⟩
  · have counted : CountLimit.whole count one_le ≠ .unlimited := fun same => by cases same
    obtain ⟨sequence, produced, dates⟩ := Rule.exists_sequence holds.fits counted hardEnd
    left
    refine ⟨_, sequence.dates, accepted, dates, ?_⟩
    simp only [accepted, outcome_settle_ok, outcome_generated produced]
    rfl
  · right
    refine ⟨count, refused, ?_⟩
    simp only [refused, outcome_settle_error, Foreseen.failure_refusal]

/-! ### Stored drafts after any run -/

/-- **Stored drafts stay valid.** After any run every row and every copy of one passes the checks of
the table and has the one form in which a rule is stored, and the drafts are numbered from 1 on in
the order of their creation. So no access to a stored draft has its rule refused: neither asking for
the rule, nor for its dates, nor for a preview. -/
theorem stored_canonical (steps : List (Text × Step)) :
    let store := (Store.empty.run steps).2
    (∀ record, (record ∈ store.rows ∨ ∃ session id, store.remembered session id = some record) →
      record.PassesChecks ∧ ∃ rule, record.IsCanonical rule) ∧
    store.rows.map Record.id = Store.empty.created steps ∧
    store.rows.map Record.id =
      (List.range store.rows.length).map (fun index : Nat => (index : Int) + 1) ∧
    (∀ session id number record, Store.number? id = some number → Fits64 number →
      store.seen session number = some record → ∃ rule, record.toRule = .ok rule ∧
        (store.step session (.rule id)).1 = .ok (.rule rule) ∧
        ∀ bound, (store.step session (.dates id bound)).1 =
            (do return .dates (← rule.dates (← Bound.ofEntries bound))) ∧
          IsUnrefused (store.step session (.dates id bound)).1) ∧
    ∀ row ∈ store.rows, Fits64 row.id → ∀ settings today maxCount hardEnd,
      ∃ rule, row.toRule = .ok rule ∧
        Previews settings today store.rows row rule maxCount hardEnd := by
  intro store
  have last : Store.empty.reached steps steps.length = store := by
    unfold Store.reached
    rw [List.take_length]
  have sound : store.Sound := Store.sound_run Store.sound_empty steps
  have rows (row : Record) (inside : row ∈ store.rows) : ∃ rule, row.Holds rule := by
    rw [← last] at inside
    exact Store.holds_of_mem_rows inside
  have shown (session : Text) (id : Int) (record : Record)
      (shown : store.seen session id = some record) : ∃ rule, record.Holds rule := by
    rw [← last] at shown
    exact Store.holds_of_seen shown
  refine ⟨?_, Store.run_ids Store.sound_empty steps, sound.numbered.ids_eq, ?_, ?_⟩
  · intro record either
    obtain ⟨rule, holds⟩ : ∃ rule, record.Holds rule := by
      rcases either with inside | ⟨session, id, known⟩
      · exact rows record inside
      · exact shown session id record (Store.seen_of_remembered known)
    exact ⟨holds.passesChecks, rule, holds.isCanonical⟩
  · intro session id number record named narrow seen
    obtain ⟨rule, holds⟩ := shown session number record seen
    refine ⟨rule, holds.toRule, Store.rule_of_stored named narrow seen holds, fun bound => ?_⟩
    have dates := Store.dates_of_stored named narrow seen holds bound
    rw [dates]
    refine ⟨rfl, ?_⟩
    exact (IsUnrefused.boundEntries bound).bind fun limit =>
      (IsUnrefused.dates rule limit).bind fun _ _ refused => by cases refused
  · intro row inside narrow settings today maxCount hardEnd
    obtain ⟨rule, holds⟩ := rows row inside
    exact ⟨rule, holds.toRule, previews_of_holds (sound.numbered.row?_of_mem inside) narrow holds
      settings today maxCount hardEnd⟩

/-- A session creates a weekly draft and switches it to another kind, while another session goes on
with the weekly one. -/
def switched : List (Text × Step) :=
  [("first", .create (.text "Backup") [("recurrence_type", .text "weekly"),
      ("start_date", .date Store.creationDay),
      ("days_of_week", .list [.int 5, .int 1])]),
    ("second", .get (.int 1)),
    ("first", .switchKind (.int 1) (.int 1) (.text "monthly_by_day") .null)]

theorem switched_canonical : ∃ (row copy : Record) (rule rule' : Rule),
    (Store.empty.run switched).2.rows = [row] ∧ row.columns.daysOfWeek = .null ∧
    row.PassesChecks ∧ row.IsCanonical rule ∧
    (Store.empty.run switched).2.remembered "second" 1 = some copy ∧
    copy.columns.daysOfWeek = .text "1,5" ∧ copy.IsCanonical rule' ∧
    Store.empty.created switched = [1] ∧
    (∃ rule, ((Store.empty.run switched).2.step "second" (.rule (.int 1))).1 = .ok (.rule rule)) ∧
    ∃ rule, Previews .default Store.creationDay [row] row rule (some 3) none := by
  obtain ⟨canonical, numbers, _, rules, previews⟩ := stored_canonical switched
  have only : (Store.empty.run switched).2.rows.length = 1 := by decide +kernel
  have number : (Store.empty.run switched).2.rows.map Record.id = [1] := by decide +kernel
  have days : (Store.empty.run switched).2.rows.map (·.columns.daysOfWeek) = [.null] := by
    decide +kernel
  have known : ((Store.empty.run switched).2.remembered "second" 1).map (·.columns.daysOfWeek) =
      some (.text "1,5") := by decide +kernel
  obtain ⟨row, rows⟩ := List.length_eq_one_iff.mp only
  obtain ⟨copy, remembered, copied⟩ := Option.map_eq_some_iff.mp known
  have inside : row ∈ (Store.empty.run switched).2.rows := by
    rw [rows]
    exact List.mem_singleton_self row
  have first : row.id = 1 := by simpa [rows] using number
  obtain ⟨checks, rule, own⟩ := canonical row (Or.inl inside)
  obtain ⟨_, rule', copied'⟩ := canonical copy (Or.inr ⟨"second", 1, remembered⟩)
  obtain ⟨shown, _, answered, _⟩ := rules "second" (.int 1) 1 copy rfl (by decide)
    (Store.seen_of_remembered remembered)
  obtain ⟨previewed, _, previews⟩ := previews row inside (by rw [first]; decide) .default
    Store.creationDay (some 3) none
  rw [rows] at days previews
  exact ⟨row, copy, rule, rule', rows, by simpa using days, checks, own, remembered, copied,
    copied', numbers.symm.trans number, ⟨shown, answered⟩, previewed, previews⟩

end Service

end Recurrence
