/-
**A step that fails leaves nothing behind.**

An edit overwrites the session's own copy of a row before it is known whether the row can be written
(`Store.saveInPlace`). If it cannot, the session forgets that copy with all its others, so nothing
of a rejected edit stays. Whatever else a failing step does, it has read a row at most.

* `Store.save_eq_saveInPlace`: saving is overwriting the copy, writing the row, and forgetting;
* `Store.Remains`: what a failing step can leave of a store;
* `Store.step_failed`: every failing step leaves that;
* `Store.Remains.reached`: reading and forgetting leads there as well;
* `Store.failed_step_undone`: so nothing changes but what the session has read or forgotten, and
  later steps go on as if it had only read or forgotten.
-/
import Recurrence.Proofs.Store.Acceptance

namespace Recurrence

namespace Store

variable {store : Store} {session : Text}

/-! ### Saving in place -/

/-- Writes a rule in the row of a record that was read, if it is not the rule read. The interval has
to fit, and the row has to be at the version read. -/
def flush (store : Store) (read : Record) (rule : Rule) : Except StoreError Store :=
  if read.write rule = read then .ok store
  else if ¬ Fits64 rule.interval then .error .numberTooWide
  else
    match store.rows.find? fun row => row.id = read.id ∧ row.version = read.version with
    | none => .error (.modifiedConcurrently read.id)
    | some row => .ok (store.put { row with
        version := row.version + 1
        columns := .overwrite row.columns read.columns (read.write rule).columns })

/-- Saves a rule as a session goes about it. Its own copy of the row takes the rule first; it is
forgotten again whether the row can be written or not. -/
def saveInPlace (store : Store) (session : Text) (read : Record) (expectedVersion : Value)
    (rule : Rule) : Answer Record :=
  if ¬ (Value.int read.version).equivalent expectedVersion then
    (.error (.stale read.id read.version expectedVersion), store)
  else
    let overwritten := store.remember session (read.write rule)
    match overwritten.flush read rule with
    | .error cause => (.error (.store cause), overwritten.forget session)
    | .ok written => written.reload session read.id

/-- A session forgets what it has just come to remember. -/
theorem forget_remember (store : Store) (session : Text) (record : Record) :
    (store.remember session record).forget session = store.forget session := by
  unfold forget remember
  congr 1
  funext other id
  by_cases own : other = session
  · rw [if_pos own, if_pos own]
  · rw [if_neg own, if_neg own]
    exact if_neg fun both => own both.1

theorem reload_remember (store : Store) (session : Text) (record : Record) (id : Int) :
    (store.remember session record).reload session id = store.reload session id := by
  unfold reload
  rw [forget_remember]

/-- **The overwritten copy makes no difference to what saving comes to.** -/
theorem save_eq_saveInPlace (store : Store) (session : Text) (read : Record)
    (expectedVersion : Value) (rule : Rule) :
    store.save session read expectedVersion rule =
      store.saveInPlace session read expectedVersion rule := by
  have rows : (store.remember session (read.write rule)).rows = store.rows := rfl
  have put (written : Record) :
      (store.remember session (read.write rule)).put written =
        (store.put written).remember session (read.write rule) := rfl
  unfold save saveInPlace flush
  by_cases version : (Value.int read.version).equivalent expectedVersion = true
  · rw [if_neg (not_not_intro version), if_neg (not_not_intro version)]
    by_cases same : read.write rule = read
    · simp only [if_pos same, reload_remember]
    · by_cases fits : Fits64 rule.interval
      · simp only [if_neg same, if_neg (not_not_intro fits), rows]
        cases store.rows.find? fun row => row.id = read.id ∧ row.version = read.version with
        | none => simp only [forget_remember]
        | some row => simp only [put, reload_remember]
      · simp only [if_neg same, if_pos fits, forget_remember]
  · rw [if_pos version, if_pos version]

/-- A row that is written is found again. -/
theorem row?_of_flush {read : Record} {rule : Rule} {written : Store} {row : Record}
    (stored : store.row? read.id = some row) (flushed : store.flush read rule = .ok written) :
    ∃ row, written.row? read.id = some row := by
  unfold flush at flushed
  split at flushed
  · cases flushed
    exact ⟨row, stored⟩
  · split at flushed
    · cases flushed
    · split at flushed
      · cases flushed
      · cases flushed
        rw [row?_put, stored]
        split
        · exact ⟨_, rfl⟩
        · exact ⟨row, rfl⟩

/-! ### What a failing step leaves -/

/-- What a failing step can leave: the store as it was, a row that the session has read, or nothing
that the session remembers. -/
inductive Remains (store : Store) (session : Text) : Store → Prop
  | same : Remains store session store
  | read (id : Value) : Remains store session (store.load session id).2
  | forgotten : Remains store session (store.forget session)

namespace Remains

variable {after : Store}

theorem refreshes (remains : Remains store session after) : Refreshes session store after := by
  cases remains with
  | same => exact .refl session store
  | read id => exact load_refreshes store session id
  | forgotten => exact (Refreshes.refl session store).forget

/-- Forgetting afterwards is forgetting at once. -/
theorem forget (remains : Remains store session after) :
    Remains store session (after.forget session) := by
  rw [remains.refreshes.forget_eq]
  exact .forgotten

end Remains

theorem create_failed (numbered : store.Numbered) {name : Value} {draft : Draft} {cause : Error}
    {after : Store} (failed : store.create session name draft = (.error cause, after)) :
    Remains store session after := by
  unfold create always at failed
  cases valid : draft.toRule with
  | error refused =>
    rw [valid] at failed
    cases failed
    exact .same
  | ok rule =>
    cases called : storedName name with
    | error refused =>
      rw [valid, called] at failed
      cases failed
      exact .same
    | ok stored =>
      simp only [valid, called, bind, Except.bind, pure, Except.pure, Answer.andThen_ok] at failed
      by_cases fits : Fits64 rule.interval
      · have made : (((store.insert ((Record.blank store.nextId stored).write rule)).reload
            session store.nextId).1) = .ok ((Record.blank store.nextId stored).write rule) :=
          reload_ok (numbered.row?_insert_self rfl)
        rw [if_pos fits] at failed
        have both := made.symm.trans (congrArg Prod.fst failed)
        cases both
      · rw [if_neg fits] at failed
        cases failed
        exact .forgotten

/-- A rule that cannot be saved leaves the store as it was, or what the session has read is
forgotten, with the copy that the rule was written to. -/
theorem save_failed {read row : Record} (stored : store.row? read.id = some row)
    {expected : Value} {rule : Rule} {cause : Error} {after : Store}
    (failed : store.save session read expected rule = (.error cause, after)) :
    after = store ∨ after = store.forget session := by
  rw [save_eq_saveInPlace] at failed
  unfold saveInPlace at failed
  split at failed
  · cases failed
    exact Or.inl rfl
  · simp only [] at failed
    cases flushed : (store.remember session (read.write rule)).flush read rule with
    | error refused =>
      rw [flushed] at failed
      have left := congrArg Prod.snd failed
      exact Or.inr (left.symm.trans (forget_remember store session (read.write rule)))
    | ok written =>
      rw [flushed] at failed
      have kept : (store.remember session (read.write rule)).row? read.id = some row := stored
      obtain ⟨found, again⟩ := row?_of_flush kept flushed
      have answered := (reload_ok again).symm.trans (congrArg Prod.fst failed)
      cases answered

/-- What refuses for itself leaves the store as it was. -/
theorem always_failed {α : Type} {result : Except Error α} {cause : Error} {after : Store}
    (failed : store.always result = (.error cause, after)) : after = store :=
  (congrArg Prod.snd failed).symm

/-- An edit that fails has read the row at most, and may have forgotten it again. -/
theorem edit_failed (sound : store.Sound) {id expected : Value}
    (ruleOf : Record → Except Error Rule) {cause : Error} {after : Store}
    (failed : ((store.load session id).andThen fun read store =>
      (store.always (ruleOf read)).andThen fun rule store =>
        store.save session read expected rule) = (.error cause, after)) :
    Remains store session after := by
  have reading : Remains store session (store.load session id).2 := .read id
  rcases Answer.andThen_eq_error failed with missing | ⟨record, between, loaded, rest⟩
  · rw [missing] at reading
    exact reading
  · obtain ⟨row, _, _, stored, before⟩ := load_ok sound (congrArg Prod.fst loaded)
    rw [loaded] at reading
    rcases Answer.andThen_eq_error rest with refused | ⟨rule, made, valid, unsaved⟩
    · rw [always_failed refused]
      exact reading
    · have same : between = made := congrArg Prod.snd valid
      subst same
      rw [← before.id] at stored
      have stored' := (reading.refreshes.row?_eq record.id).trans stored
      rcases save_failed stored' unsaved with kept | forgotten
      · rw [kept]
        exact reading
      · rw [forgotten]
        exact reading.forget

/-- The rule of a row is made of what is read. -/
theorem loadRule_remains (store : Store) (session : Text) (id : Value) :
    Remains store session (store.loadRule session id).2 := by
  have reading : Remains store session (store.load session id).2 := .read id
  unfold loadRule
  cases loaded : store.load session id with
  | mk answer between =>
    rw [loaded] at reading
    cases answer with
    | error cause => exact reading
    | ok record => exact reading

/-- What is made of an answer that fails is what the answer leaves. -/
theorem failed_of_map {α : Type} {answer : Answer α} {outcome : α → Outcome} {cause : Error}
    {after : Store}
    (failed : (answer.andThen fun content store => (.ok (outcome content), store)) =
      (.error cause, after)) : answer = (.error cause, after) := by
  rcases Answer.andThen_eq_error failed with own | ⟨_, _, _, later⟩
  · exact own
  · have impossible := congrArg Prod.fst later
    cases impossible

/-! ### Every failing step -/

theorem attempt_failed (sound : store.Sound) {step : Step} {cause : Error} {after : Store}
    (failed : store.attempt session step = (.error cause, after)) :
    Remains store session after := by
  cases step with
  | create name entries =>
    rcases Answer.andThen_eq_error failed with unfilled | ⟨draft, between, filled, rest⟩
    · rw [always_failed unfilled]
      exact .same
    · have same : store = between := congrArg Prod.snd filled
      subst same
      exact create_failed sound.numbered (failed_of_map rest)
  | get id =>
    have reading : Remains store session (store.load session id).2 := .read id
    rw [failed_of_map failed] at reading
    exact reading
  | list =>
    have answered := congrArg Prod.fst failed
    cases answered
  | update id expected entries =>
    rcases Answer.andThen_eq_error failed with unfilled | ⟨draft, between, filled, rest⟩
    · rw [always_failed unfilled]
      exact .same
    · have same : store = between := congrArg Prod.snd filled
      subst same
      exact edit_failed sound (fun _ => draft.toRule) (failed_of_map rest)
  | switchKind id expected kind anchor =>
    exact edit_failed sound (switchedRule · kind anchor) (failed_of_map failed)
  | rule id =>
    have reading := loadRule_remains store session id
    rw [failed_of_map failed] at reading
    exact reading
  | dates id bound =>
    have reading := loadRule_remains store session id
    rcases Answer.andThen_eq_error failed with missing | ⟨rule, between, loaded, refused⟩
    · rw [missing] at reading
      exact reading
    · rw [loaded] at reading
      rw [always_failed refused]
      exact reading
  | expire =>
    have answered := congrArg Prod.fst failed
    cases answered

/-- **A failing step has read a row at most, or it has forgotten.** -/
theorem step_failed (sound : store.Sound) {step : Step} {cause : Error}
    (failed : (store.step session step).1 = .error cause) :
    Remains store session (store.step session step).2 := by
  unfold Store.step at failed ⊢
  cases attempted : store.attempt session step with
  | mk answer after =>
    rw [attempted] at failed
    cases answer with
    | ok outcome => cases failed
    | error own =>
      have remains := attempt_failed sound attempted
      simp only []
      split
      · exact remains
      · exact remains.forget

/-! ### Going on after a failure -/

/-- The step only reads a row, or forgets what was read. -/
def OnlyReads : Step → Prop
  | .get _ | .expire => True
  | _ => False

/-- A failure to read that is not foreseen has forgotten already. -/
theorem load_unforeseen {id : Value} {cause : Error} {after : Store}
    (failed : store.load session id = (.error cause, after)) (unforeseen : ¬ cause.isForeseen) :
    after.forget session = after := by
  unfold load at failed
  split at failed
  · cases failed
    exact absurd rfl unforeseen
  · split at failed
    · split at failed
      · cases failed
      · split at failed
        · cases failed
        · cases failed
          exact absurd rfl unforeseen
    · split at failed
      · cases failed
        exact (Refreshes.refl session store).forget.forget_eq
      · cases failed
        exact absurd rfl unforeseen

theorem step_get_snd (store : Store) (session : Text) (id : Value) :
    (store.step session (.get id)).2 = (store.load session id).2 := by
  have attempted : store.attempt session (.get id) =
      (store.load session id).andThen fun record store => (.ok (.record record), store) := rfl
  unfold Store.step
  rw [attempted]
  cases loaded : store.load session id with
  | mk answer after =>
    cases answer with
    | ok record => rfl
    | error cause =>
      show (if cause.isForeseen then after else after.forget session) = after
      split
      · rfl
      · exact load_unforeseen loaded ‹_›

/-- **What a failing step leaves is also reached by reading and forgetting alone.** -/
theorem Remains.reached {after : Store} (remains : Remains store session after) :
    ∃ steps : List Step, (∀ step ∈ steps, OnlyReads step) ∧
      (store.run (steps.map fun step => (session, step))).2 = after := by
  cases remains with
  | same => exact ⟨[], fun _ none => absurd none List.not_mem_nil, rfl⟩
  | read id =>
    refine ⟨[.get id], fun step only => ?_, step_get_snd store session id⟩
    rw [List.mem_singleton.mp only]
    trivial
  | forgotten =>
    refine ⟨[.expire], fun step only => ?_, rfl⟩
    rw [List.mem_singleton.mp only]
    trivial

/-- Nothing of a step of the session is left but what it has read or forgotten on the way. -/
structure Undone (store : Store) (session : Text) (after : Store) : Prop where
  rows : after.rows = store.rows
  others : ∀ (other : Text) (id : Int), other ≠ session →
    after.remembered other id = store.remembered other id
  /-- A copy of the session's own is as before, or forgotten, or the row as it is stored. -/
  own : ∀ id : Int, after.remembered session id = store.remembered session id ∨
    after.remembered session id = none ∨ after.remembered session id = store.row? id
  /-- All that comes later is as if the session had only read or forgotten. -/
  later : ∃ (reads : List Step) (answers : List (Except Error Outcome)),
    (∀ step ∈ reads, OnlyReads step) ∧
      ∀ steps : List (Text × Step), store.run (reads.map (fun step => (session, step)) ++ steps) =
        (answers ++ (after.run steps).1, (after.run steps).2)

theorem Refreshes.own_eq {before after : Store} (refreshes : Refreshes session before after)
    (id : Int) : after.remembered session id = before.remembered session id ∨
      after.remembered session id = none ∨ after.remembered session id = before.row? id := by
  cases known : after.remembered session id with
  | none => exact Or.inr (Or.inl rfl)
  | some copy =>
    rcases refreshes.own id copy known with kept | read
    · exact Or.inl kept.symm
    · exact Or.inr (Or.inr read.symm)

theorem Remains.undone {after : Store} (remains : Remains store session after) :
    Undone store session after where
  rows := remains.refreshes.rows
  others := remains.refreshes.others
  own := remains.refreshes.own_eq
  later := by
    obtain ⟨reads, only, reached⟩ := remains.reached
    refine ⟨reads, (store.run (reads.map fun step => (session, step))).1, only, fun steps => ?_⟩
    rw [run_append, reached]

/-- **A step that fails leaves nothing behind.** After any run, whatever the step and whatever the
failure: the rows and the copies of other sessions are untouched, the session's own copies are old,
forgotten or fresh, and the later steps of all sessions go on as if it had only read. -/
theorem failed_step_undone (steps : List (Text × Step)) (session : Text) (step : Step)
    {cause : Error} (failed : ((empty.run steps).2.step session step).1 = .error cause) :
    Undone (empty.run steps).2 session ((empty.run steps).2.step session step).2 :=
  (step_failed (sound_run sound_empty steps) failed).undone

/-- The session edits the draft as it has read it. -/
def overtakenEdition : Step :=
  .update (.int 1) (.int 1)
    [("recurrence_type", .text "daily"), ("start_date", .date creationDay), ("interval", .int 3)]

theorem overtaken_undone :
    ((empty.run race).2.step "second" overtakenEdition).1 =
        .error (.store (.modifiedConcurrently 1)) ∧
      Undone (empty.run race).2 "second"
        ((empty.run race).2.step "second" overtakenEdition).2 := by
  have refused : ((empty.run race).2.step "second" overtakenEdition).1 =
      .error (.store (.modifiedConcurrently 1)) := rfl
  exact ⟨refused, failed_step_undone race "second" overtakenEdition refused⟩

end Store

end Recurrence
