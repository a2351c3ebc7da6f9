/-
**A session that was overtaken goes on from what is stored.**

When an edit fails because another session has changed the row, the session has written the rejected
rule over its own copy of the row. Saving forgets that copy and all others of the session, so it
remembers nothing, whatever it had read before. Other sessions may go on as they like: they leave
its memory alone, and no row ever disappears. From its next step on the session reads what is
stored. As long as nobody interrupts it again, it is shown the row as it stands, and edits it at the
version that it is shown.

* `Draft.toRule_storeless`, `Store.switchedRule_storeless`: making a rule fails for no cause of the
  store;
* `Store.save_overtaken`: saving that is overtaken forgets what the session has read;
* `Store.step_overtaken`: an edit that is overtaken has found a row, and leaves nothing remembered;
* `Store.holds_run`: what every step keeps holds at the end of a run;
* `Store.IsAway.run`, `Store.IsAtWork.run`: other sessions leave a session that remembers nothing in
  that state, and its own steps leave it with nothing but what is stored;
* `Store.Commands`: a session reads a row as it is stored, and its edits of it are accepted;
* `Store.overtaken_recovers`: a session that was overtaken commands the row.
-/
import Recurrence.Proofs.Rule.Checks
import Recurrence.Proofs.Store.Failure
import Recurrence.Proofs.Store.Refinement
import Recurrence.Proofs.Store.Shown

namespace Recurrence

/-! ### Failures of other parts -/

/-- A result that does not fail for a cause of the store. -/
def IsStoreless {α : Type} (result : Except Error α) : Prop :=
  ∀ cause : StoreError, result ≠ .error (.store cause)

namespace IsStoreless

variable {α β : Type}

theorem ok (content : α) : IsStoreless (.ok content) := fun _ failed => by cases failed

theorem bind {result : Except Error α} {next : α → Except Error β}
    (first : IsStoreless result) (later : ∀ content, IsStoreless (next content)) :
    IsStoreless (result >>= next) := by
  intro cause failed
  rcases bind_eq_error_iff.mp failed with own | ⟨content, _, failed⟩
  · exact first cause own
  · exact later content cause failed

/-- A cause of another part is none of the store. -/
theorem mapError {ε : Type} {wrap : ε → Error}
    (apart : ∀ (cause : ε) (own : StoreError), wrap cause ≠ .store own) (result : Except ε α) :
    IsStoreless (result.mapError wrap) := by
  intro own failed
  cases result with
  | error cause => exact apart cause own (Except.error.inj failed)
  | ok content => cases failed

theorem rule (result : Except RuleError α) : IsStoreless (result.mapError .rule) :=
  mapError nofun result

theorem mismatch (result : Except Mismatch α) : IsStoreless (result.mapError .mismatch) :=
  mapError nofun result

end IsStoreless

theorem Value.asWeekdays_storeless (listed : Value) : IsStoreless listed.asWeekdays := by
  unfold asWeekdays
  split
  · exact fun _ failed => by cases failed
  · refine .bind (.mismatch _) fun items => .bind (.rule _) fun weekdays => ?_
    cases weekdays with
    | nil => exact fun _ failed => by cases failed
    | cons first others => exact .ok _

theorem Pattern.ofDraft_storeless (kind : Kind) (draft : Draft) :
    IsStoreless (ofDraft kind draft) := by
  cases kind with
  | daily | yearly => exact .ok _
  | weekly => exact .bind (Value.asWeekdays_storeless _) fun _ => .ok _
  | monthlyByDay => exact .bind (.rule _) fun _ => .ok _
  | monthlyByWeekday => exact .bind (.rule _) fun _ => .bind (.rule _) fun _ => .ok _

theorem Rule.ofDraft_storeless (kind : Kind) (draft : Draft) : IsStoreless (ofDraft kind draft) :=
  .bind (.rule _) fun _ => .bind (Pattern.ofDraft_storeless kind draft) fun _ =>
    .bind (.rule _) fun _ => .bind (.rule _) fun _ => .ok _

/-- **A rule is made of a draft without the store.** -/
theorem Draft.toRule_storeless (draft : Draft) : IsStoreless draft.toRule := by
  refine .bind (.rule _) fun kind => ?_
  cases kind with
  | weekly => exact .bind (.mismatch _) fun _ => Rule.ofDraft_storeless _ _
  | daily | monthlyByDay | monthlyByWeekday | yearly => exact Rule.ofDraft_storeless _ _

theorem Columns.toDraft_storeless (columns : Columns) : IsStoreless columns.toDraft := by
  have days : IsStoreless (WeekdayText.parseForm columns.daysOfWeek) := by
    unfold WeekdayText.parseForm
    split
    · exact .ok _
    · exact .bind (.mismatch _) fun _ => .mapError nofun _
  exact .bind days fun _ => .ok _

/-- The record that an accepted edit leaves: its next version, or the same if it holds the rule
already. -/
def Record.accept (record : Record) (rule : Rule) : Record :=
  if record.columns = .ofRule rule then record else record.revise rule

/-- The step is an edit of the draft that a value names. -/
inductive Step.IsEditOf (name : Value) : Step → Prop
  | update (expected : Value) (entries : List (Text × Value)) :
    IsEditOf name (.update name expected entries)
  | switchKind (expected kind anchor : Value) :
    IsEditOf name (.switchKind name expected kind anchor)

namespace Store

variable {store : Store} {session : Text}

/-- **A record is switched to another kind without the store.** -/
theorem switchedRule_storeless (read : Record) (kind anchor : Value) :
    IsStoreless (switchedRule read kind anchor) :=
  .bind (Columns.toDraft_storeless read.columns) fun _ =>
    .bind (.bind (.bind (.rule _) fun _ => .mismatch _) fun _ => .ok _) fun switched =>
      switched.toRule_storeless

/-! ### Being overtaken -/

/-- A row that cannot be read is missing, or its number is too wide. -/
theorem load_eq_error {name : Value} {cause : Error}
    (failed : (store.load session name).1 = .error cause) :
    cause = .store (.notFound name) ∨ cause = .store .numberTooWide := by
  rw [load_eq_lookup] at failed
  unfold lookup at failed
  split at failed
  · exact Or.inl (Except.error.inj failed).symm
  · split at failed
    · split at failed
      · cases failed
      · exact Or.inl (Except.error.inj failed).symm
    · split at failed
      · exact Or.inr (Except.error.inj failed).symm
      · exact Or.inl (Except.error.inj failed).symm

/-- Reading a row anew fails only if it is missing. -/
theorem reload_eq_error {id : Int} {cause : Error}
    (failed : (store.reload session id).1 = .error cause) :
    cause = .store (.notFound (.int id)) := by
  unfold reload at failed
  simp only [] at failed
  split at failed
  · cases failed
  · exact (Except.error.inj failed).symm

/-- Only the row that was to be written is reported as changed meanwhile. -/
theorem flush_overtaken {read : Record} {rule : Rule} {id : Int}
    (lost : store.flush read rule = .error (.modifiedConcurrently id)) : id = read.id := by
  unfold flush at lost
  split at lost
  · cases lost
  · split at lost
    · cases lost
    · split at lost
      · cases lost
        rfl
      · cases lost

/-- **Saving that is overtaken forgets what the session has read,** and with it the copy that the
rejected rule was written to. -/
theorem save_overtaken {read : Record} {expected : Value} {rule : Rule} {id : Int}
    (lost : (store.save session read expected rule).1 =
      .error (.store (.modifiedConcurrently id))) :
    id = read.id ∧ (store.save session read expected rule).2 = store.forget session := by
  rw [save_eq_saveInPlace] at lost ⊢
  unfold saveInPlace at lost ⊢
  by_cases version : (Value.int read.version).equivalent expected = true
  · rw [if_neg (not_not_intro version)] at lost ⊢
    simp only [] at lost ⊢
    cases flushed : (store.remember session (read.write rule)).flush read rule with
    | error cause =>
      rw [flushed] at lost
      cases lost
      exact ⟨flush_overtaken flushed, forget_remember store session (read.write rule)⟩
    | ok written =>
      rw [flushed] at lost
      cases reload_eq_error lost
  · rw [if_pos version] at lost
    have refused := Except.error.inj lost
    rcases Error.stale_cases read.id read.version expected with ⟨_, shown⟩ | ⟨_, hidden⟩
    · cases shown.symm.trans refused
    · cases hidden.symm.trans refused

/-- An edit that is overtaken has found the row that it reports, and forgets it again. -/
theorem edit_overtaken (sound : store.Sound) {name expected : Value}
    {ruleOf : Record → Except Error Rule} (storeless : ∀ read, IsStoreless (ruleOf read))
    {answer : Answer Record}
    (edit : answer = (store.load session name).andThen fun read store =>
      (store.always (ruleOf read)).andThen fun rule store =>
        store.save session read expected rule)
    {id : Int} (lost : answer.1 = .error (.store (.modifiedConcurrently id))) :
    number? name = some id ∧ Fits64 id ∧ (∃ row, store.row? id = some row) ∧
      answer.2 = store.forget session := by
  have refreshes := load_refreshes store session name
  cases loaded : store.load session name with
  | mk result between =>
    rw [loaded] at refreshes edit
    cases result with
    | error cause =>
      rw [edit] at lost
      cases lost
      rcases load_eq_error (congrArg Prod.fst loaded) with missing | wide
      · cases missing
      · cases wide
    | ok read =>
      obtain ⟨row, named, narrow, stored, before⟩ := load_ok sound (congrArg Prod.fst loaded)
      rw [Answer.andThen_ok] at edit
      cases made : ruleOf read with
      | error cause =>
        rw [edit, made] at lost
        cases lost
        exact absurd made (storeless read _)
      | ok rule =>
        rw [made] at edit
        subst edit
        obtain ⟨place, forgotten⟩ := save_overtaken lost
        rw [before.id] at place
        subst place
        exact ⟨named, narrow, ⟨row, stored⟩, forgotten.trans refreshes.forget_eq⟩

/-- A step that fails for a foreseen cause leaves what the attempt leaves. -/
theorem step_foreseen {step : Step} {cause : Error}
    (failed : (store.attempt session step).1 = .error cause) (foreseen : cause.isForeseen = true) :
    (store.step session step).2 = (store.attempt session step).2 := by
  unfold Store.step
  cases attempted : store.attempt session step with
  | mk answer after =>
    rw [attempted] at failed
    simp only [] at failed
    subst failed
    exact if_pos foreseen

/-- What is answered with the record leaves what its answer leaves. -/
theorem andThen_record_snd (answer : Answer Record) :
    (answer.andThen fun record store => (.ok (Outcome.record record), store)).2 = answer.2 := by
  obtain ⟨content, after⟩ := answer
  cases content with
  | error cause => rfl
  | ok record => rfl

/-- **An edit that is overtaken has found the row, and leaves nothing remembered.** -/
theorem step_overtaken (sound : store.Sound) {step : Step} {name : Value}
    (isEdit : step.IsEditOf name) {id : Int}
    (lost : (store.step session step).1 = .error (.store (.modifiedConcurrently id))) :
    number? name = some id ∧ Fits64 id ∧ (∃ row, store.row? id = some row) ∧
      (store.step session step).2 = store.forget session := by
  have settled {expected : Value} {ruleOf : Record → Except Error Rule}
      (storeless : ∀ read, IsStoreless (ruleOf read)) {answer : Answer Record}
      (edit : answer = (store.load session name).andThen fun read store =>
        (store.always (ruleOf read)).andThen fun rule store =>
          store.save session read expected rule)
      (attempted : store.attempt session step =
        answer.andThen fun record store => (.ok (.record record), store)) :
      number? name = some id ∧ Fits64 id ∧ (∃ row, store.row? id = some row) ∧
        (store.step session step).2 = store.forget session := by
    have own : answer.1 = .error (.store (.modifiedConcurrently id)) := by
      rw [(step_of_record attempted).1] at lost
      cases answered : answer.1 with
      | error cause =>
        rw [answered] at lost
        cases lost
        rfl
      | ok record =>
        rw [answered] at lost
        cases lost
    obtain ⟨named, narrow, there, forgotten⟩ := edit_overtaken sound storeless edit own
    rw [step_fst] at lost
    refine ⟨named, narrow, there, (step_foreseen lost rfl).trans ?_⟩
    rw [attempted, andThen_record_snd]
    exact forgotten
  cases isEdit with
  | update expected entries =>
    cases filled : Form.draft.fill entries with
    | error cause =>
      rw [step_fst, attempt, Store.filled, filled] at lost
      cases lost
    | ok draft =>
      exact settled (fun _ => draft.toRule_storeless) rfl
        (attempt_update filled store session name expected)
  | switchKind expected kind anchor =>
    exact settled (switchedRule_storeless · kind anchor) rfl rfl

/-! ### What happens meanwhile -/

/-- **What every step of a run keeps holds at its end.** -/
theorem holds_run (Holds : Store → Prop) {steps : List (Text × Step)}
    (kept : ∀ current : Store, current.Sound → Holds current →
      ∀ taken ∈ steps, Holds (current.step taken.1 taken.2).2)
    (sound : store.Sound) (holds : Holds store) : Holds (store.run steps).2 := by
  induction steps generalizing store with
  | nil => exact holds
  | cons head steps ih =>
    have next := kept store sound holds head (List.mem_cons_self ..)
    exact ih (fun current sound holds taken later =>
      kept current sound holds taken (List.mem_cons_of_mem head later))
      ((step_effect sound head.1 head.2).sound sound) next

/-- There is a row with the number, and the session remembers nothing. -/
structure IsAway (store : Store) (session : Text) (id : Int) : Prop where
  there : ∃ row, store.row? id = some row
  nothing : ∀ other, store.remembered session other = none

/-- There is a row with the number, and the session remembers nothing but what is stored. -/
structure IsAtWork (store : Store) (session : Text) (id : Int) : Prop where
  there : ∃ row, store.row? id = some row
  current : store.IsCurrent session

/-- No row ever disappears. -/
theorem Effect.there {step : Step} {answer : Except Error Outcome} {after : Store}
    (effect : Effect store session step answer after) {id : Int}
    (there : ∃ row, store.row? id = some row) : ∃ row, after.row? id = some row := by
  obtain ⟨row, stored⟩ := there
  obtain ⟨later, stored', _⟩ := effect.row?_precedes stored
  exact ⟨later, stored'⟩

namespace IsAway

variable {id : Int}

theorem isAtWork (away : store.IsAway session id) : store.IsAtWork session id where
  there := away.there
  current other copy known := by
    rw [away.nothing] at known
    cases known

/-- **Other sessions leave a session away.** -/
theorem run (away : store.IsAway session id) (sound : store.Sound) {theirs : List (Text × Step)}
    (others : ∀ taken ∈ theirs, taken.1 ≠ session) :
    (store.run theirs).2.IsAway session id := by
  refine holds_run (IsAway · session id) (fun current sound away taken inside => ?_) sound away
  have effect := step_effect sound taken.1 taken.2
  refine ⟨effect.there away.there, fun other => ?_⟩
  rw [effect.others_eq (others taken inside).symm]
  exact away.nothing other

end IsAway

/-- **Its own steps leave a session at work.** -/
theorem IsAtWork.run {id : Int} (atWork : store.IsAtWork session id) (sound : store.Sound)
    (own : List Step) :
    (store.run (own.map fun step => (session, step))).2.IsAtWork session id := by
  refine holds_run (IsAtWork · session id) (fun current sound atWork taken inside => ?_) sound
    atWork
  obtain ⟨step, _, rfl⟩ := List.mem_map.mp inside
  have effect := step_effect sound session step
  exact ⟨effect.there atWork.there, effect.current atWork.current⟩

/-! ### Going on -/

/-- A session commands a row: it reads the row as it is stored, whatever value it names it by; and
every edit at the version of the row, with a rule that can be stored, is accepted and in force. -/
structure Commands (store : Store) (session : Text) (row : Record) : Prop where
  stored : store.row? row.id = some row
  read : ∀ name : Value, number? name = some row.id →
    (store.step session (.get name)).1 = .ok (.record row)
  edited : ∀ (step : Step) (expected : Value) (rule : Rule), step.Edits row expected rule →
    (Value.int row.version).equivalent expected = true → Fits64 rule.interval →
    (store.step session step).1 = .ok (.record (row.accept rule)) ∧
      (store.step session step).2.row? row.id = some (row.accept rule)

/-- Saving a row at its version, as it is stored, leaves the record that is accepted. -/
theorem saved_self {row : Record} (stored : store.row? row.id = some row) {expected : Value}
    (version : (Value.int row.version).equivalent expected = true) {rule : Rule}
    (fits : Fits64 rule.interval) :
    (store.saved row row expected rule).1 = .ok (row.accept rule) ∧
      (store.saved row row expected rule).2.find? (·.id = row.id) = some (row.accept rule) := by
  have saving := store.saving row row expected rule
  generalize store.saved row row expected rule = saved at saving
  unfold Record.accept
  cases saving with
  | stale stale => exact absurd version stale
  | unchanged _ same =>
    rw [if_pos same]
    exact ⟨rfl, stored⟩
  | wide _ _ wide => exact absurd fits wide
  | revised _ changed =>
    rw [if_neg changed]
    have put := store.row?_put (row.revise rule) row.id
    rw [Record.revise_id, if_pos rfl, stored] at put
    exact ⟨rfl, put⟩
  | overtaken _ _ _ former => exact absurd rfl former

/-- **A session that remembers nothing but what is stored commands the rows.** -/
theorem IsCurrent.commands (current : store.IsCurrent session) (sound : store.Sound) {row : Record}
    (stored : store.row? row.id = some row) (narrow : Fits64 row.id) :
    store.Commands session row where
  stored := stored
  read name named := by
    have shown := (current.seen_eq row.id).trans stored
    rw [step_get, lookup_eq_ok.mpr ⟨row.id, named, narrow, shown⟩]
    rfl
  edited step expected rule isEdit version fits := by
    have shown := (current.seen_eq row.id).trans stored
    have saved := saved_self stored version fits
    have settled {answer : Answer Record}
        (attempted : store.attempt session step =
          answer.andThen fun record store => (.ok (.record record), store))
        (outcome : (answer.1, answer.2.rows) = store.saved row row expected rule) :
        (store.step session step).1 = .ok (.record (row.accept rule)) ∧
          (store.step session step).2.row? row.id = some (row.accept rule) := by
      obtain ⟨stepped, rows⟩ := step_of_record attempted
      rw [← outcome] at saved
      refine ⟨by rw [stepped, saved.1]; rfl, ?_⟩
      rw [row?, rows]
      exact saved.2
    cases isEdit with
    | @update id _ entries draft _ named filled valid =>
      have outcome := edit_outcome sound stored shown named narrow expected
        (fun _ => draft.toRule) (rfl : store.update session id expected draft = _)
      rw [valid] at outcome
      exact settled (attempt_update filled store session id expected) outcome
    | @switchKind id _ kind anchor _ named valid =>
      have outcome := edit_outcome sound stored shown named narrow expected
        (switchedRule · kind anchor) (rfl : store.switchKind session id expected kind anchor = _)
      rw [valid] at outcome
      exact settled rfl outcome

/-- Reading a row leaves the session in command of it. -/
theorem IsCurrent.commands_get (current : store.IsCurrent session) (sound : store.Sound)
    {row : Record} (stored : store.row? row.id = some row) (narrow : Fits64 row.id)
    (name : Value) : (store.step session (.get name)).2.Commands session row := by
  have effect := step_effect sound session (.get name)
  have rows := effect.rows_eq (fun _ _ same => by cases same) fun _ _ _ isEdit => by cases isEdit
  refine (effect.current current).commands (effect.sound sound) ?_ narrow
  rw [row?, rows]
  exact stored

/-- **A session that was overtaken commands the row again.** Whatever all sessions have done before,
and whatever others do before the session goes on: from then on it reads the row as it is stored,
and its edits at that version are accepted, until another session interrupts it. -/
theorem overtaken_recovers (steps : List (Text × Step)) (session : Text) {step : Step}
    {name : Value} (isEdit : step.IsEditOf name) {id : Int}
    (lost : ((empty.run steps).2.step session step).1 =
      .error (.store (.modifiedConcurrently id)))
    (theirs : List (Text × Step)) (others : ∀ taken ∈ theirs, taken.1 ≠ session)
    (own : List Step) :
    let overtaken := ((empty.run steps).2.step session step).2
    let now := ((overtaken.run theirs).2.run (own.map fun step => (session, step))).2
    number? name = some id ∧ ∃ row, now.row? id = some row ∧ now.Commands session row ∧
      ∀ other, (now.step session (.get other)).2.Commands session row := by
  intro overtaken now
  have sound := sound_run sound_empty steps
  obtain ⟨named, narrow, there, forgotten⟩ := step_overtaken sound isEdit lost
  have sound' : overtaken.Sound := (step_effect sound session step).sound sound
  have away : overtaken.IsAway session id := by
    have nothing : ∀ other, ((empty.run steps).2.forget session).remembered session other = none :=
      fun other => if_pos rfl
    rw [← forgotten] at nothing
    exact ⟨(step_effect sound session step).there there, nothing⟩
  have sound'' := sound_run sound' theirs
  have soundNow : now.Sound := sound_run sound'' _
  have atWork := (away.run sound' others).isAtWork.run sound'' own
  obtain ⟨row, stored⟩ := atWork.there
  have place := id_of_row? stored
  subst place
  exact ⟨named, row, stored, atWork.current.commands soundNow stored narrow,
    atWork.current.commands_get soundNow stored narrow⟩

/-- The other session edits the draft once more. -/
def laterEdition : Step :=
  .update (.int 1) (.int 2)
    [("recurrence_type", .text "daily"), ("start_date", .date creationDay), ("interval", .int 5)]

/-- The session sends its edit again, at the version that it has read by then. -/
def resumption : Step :=
  .update (.int 1) (.int 3)
    [("recurrence_type", .text "daily"), ("start_date", .date creationDay), ("interval", .int 3)]

theorem everyThirdDay_interval : (1 : Int) ≤ 3 := by decide

/-- The rule of `resumption`. -/
def everyThirdDay : Rule :=
  { everyDay with interval := 3, one_le_interval := everyThirdDay_interval }

/-- The store when the session that was overtaken goes on: the other one has made another edit, and
the session has listed all drafts. -/
def resumed : Store :=
  ((((empty.run race).2.step "second" overtakenEdition).2.run [("first", laterEdition)]).2.run
    (([.list] : List Step).map fun step => ("second", step))).2

/-- The session reads version 3, and its edit of that version is accepted. -/
theorem overtakenEdition_recovers :
    ((empty.run race).2.step "second" overtakenEdition).1 =
        .error (.store (.modifiedConcurrently 1)) ∧
      ∃ row, row.version = 3 ∧ (resumed.step "second" (.get (.int 1))).1 = .ok (.record row) ∧
        ((resumed.step "second" (.get (.int 1))).2.step "second" resumption).1 =
          .ok (.record (row.accept everyThirdDay)) := by
  have refused : ((empty.run race).2.step "second" overtakenEdition).1 =
      .error (.store (.modifiedConcurrently 1)) := rfl
  have isEdit : overtakenEdition.IsEditOf (.int 1) := .update _ _
  obtain ⟨_, row, stored, commands, later⟩ := overtaken_recovers race "second" isEdit refused
    [("first", laterEdition)] (by decide) [.list]
  have third : (resumed.row? 1).map Record.version = some 3 := by decide +kernel
  have version : row.version = 3 := by
    rw [resumed, stored, Option.map_some, Option.some_inj] at third
    exact third
  have named : number? (.int 1) = some row.id := by
    rw [id_of_row? stored]
    rfl
  have again : resumption.Edits row (.int 3) everyThirdDay := .update named rfl rfl
  have current : (Value.int row.version).equivalent (.int 3) = true := by
    rw [version]
    rfl
  exact ⟨refused, row, version, commands.read _ named,
    ((later (.int 1)).edited _ _ _ again current (by decide)).1⟩

end Store

end Recurrence
