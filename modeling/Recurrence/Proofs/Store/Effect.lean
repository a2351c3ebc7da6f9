/-
**What a step does to the stored drafts.**

Every step of a session does one of three things: it only reads, it appends a row for a draft that
it has validated, or it replaces one row by the next version of it, with the rule that it has
validated. A step that fails replaces no row.

* `Step.Edits`: the step asks for a rule in a row;
* `Store.Effect`: the three things that a step does;
* `Store.step_effect`: every step does one of them;
* `Store.Effect.sound`: each of them keeps the store sound;
* `Store.Effect.row?_eq`: a row stays unless it is edited;
* `Store.Effect.version_eq_one`: a new row is at version 1.
-/
import Recurrence.Proofs.Store.Editing

namespace Recurrence

/-- The step is an edit of a row: it expects a version of it and makes a rule. -/
inductive Step.Edits (row : Record) : Step → Value → Rule → Prop
  | update {id expected : Value} {entries : List (Text × Value)} {draft : Draft} {rule : Rule}
    (named : Store.number? id = some row.id) (filled : Form.draft.fill entries = .ok draft)
    (valid : draft.toRule = .ok rule) : Edits row (.update id expected entries) expected rule
  | switchKind {id expected kind anchor : Value} {rule : Rule}
    (named : Store.number? id = some row.id)
    (valid : Store.switchedRule row kind anchor = .ok rule) :
    Edits row (.switchKind id expected kind anchor) expected rule

namespace Store

/-- What a step of a session does to the store. -/
inductive Effect (store : Store) (session : Text) :
    Step → Except Error Outcome → Store → Prop
  /-- The session reads and forgets. -/
  | reads {step : Step} {answer : Except Error Outcome} {after : Store}
    (refreshes : Refreshes session store after) : Effect store session step answer after
  /-- A row is appended, at version 1. -/
  | creates {name : Value} {entries : List (Text × Value)} {draft : Draft} {rule : Rule}
    {stored : String} {after : Store}
    (filled : Form.draft.fill entries = .ok draft) (valid : draft.toRule = .ok rule)
    (called : storedName name = .ok stored) (fits : Fits64 rule.interval)
    (refreshes :
      Refreshes session (store.insert ((Record.blank store.nextId stored).write rule)) after) :
    Effect store session (.create name entries)
      (.ok (.record ((Record.blank store.nextId stored).write rule))) after
  /-- A row is replaced by its next version. -/
  | edits {step : Step} {row : Record} {expected : Value} {rule : Rule} {after : Store}
    (isEdit : step.Edits row expected rule)
    (revises : Revises store session row expected rule (.ok (row.revise rule), after)) :
    Effect store session step (.ok (.record (row.revise rule))) after

variable {store : Store} {session : Text}

/-! ### Every step -/

/-- A row is appended for a valid draft, or nothing is written. -/
theorem create_effect (numbered : store.Numbered) (session : Text) (name : Value) (draft : Draft) :
    Refreshes session store (store.create session name draft).2 ∨
      ∃ rule stored, draft.toRule = .ok rule ∧ storedName name = .ok stored ∧
        Fits64 rule.interval ∧
        (store.create session name draft).1 =
          .ok ((Record.blank store.nextId stored).write rule) ∧
        Refreshes session (store.insert ((Record.blank store.nextId stored).write rule))
          (store.create session name draft).2 := by
  unfold create always
  cases valid : draft.toRule with
  | error cause => exact Or.inl (.refl session store)
  | ok rule =>
    cases called : storedName name with
    | error cause => exact Or.inl (.refl session store)
    | ok stored =>
      simp only [bind, Except.bind, pure, Except.pure, Answer.andThen_ok]
      by_cases fits : Fits64 rule.interval
      · rw [if_pos fits]
        exact Or.inr ⟨rule, stored, rfl, rfl, fits, reload_ok (numbered.row?_insert_self rfl),
          reload_refreshes _ session _⟩
      · rw [if_neg fits]
        exact Or.inl (Refreshes.refl session store).forget

/-- What is made of an answer that was read leaves the store alone. -/
theorem effect_of_read {α : Type} {step : Step} {answer : Answer α}
    (refreshes : Refreshes session store answer.2) (result : α → Except Error Outcome) :
    Effect store session step (answer.andThen fun content store => (result content, store)).1
      (answer.andThen fun content store => (result content, store)).2 := by
  obtain ⟨content, after⟩ := answer
  cases content <;> exact .reads refreshes

/-- What the making of a row does is what its step does. -/
theorem effect_of_create {name : Value} {entries : List (Text × Value)} {draft : Draft}
    {rule : Rule} {stored : String} {answer : Answer Record}
    (filled : Form.draft.fill entries = .ok draft) (valid : draft.toRule = .ok rule)
    (called : storedName name = .ok stored) (fits : Fits64 rule.interval)
    (answered : answer.1 = .ok ((Record.blank store.nextId stored).write rule))
    (refreshes :
      Refreshes session (store.insert ((Record.blank store.nextId stored).write rule)) answer.2) :
    Effect store session (.create name entries)
      (answer.andThen fun record store => (.ok (Outcome.record record), store)).1
      (answer.andThen fun record store => (.ok (Outcome.record record), store)).2 := by
  obtain ⟨content, after⟩ := answer
  simp only [] at answered
  subst answered
  exact .creates filled valid called fits refreshes

/-- What an edit of a row does is what its step does. -/
theorem effect_of_edit {step : Step} {row : Record} {expected : Value} {rule : Rule}
    {answer : Answer Record} (isEdit : step.Edits row expected rule)
    (revises : Revises store session row expected rule answer) :
    Effect store session step
      (answer.andThen fun record store => (.ok (Outcome.record record), store)).1
      (answer.andThen fun record store => (.ok (Outcome.record record), store)).2 := by
  have answered := revises.answered
  obtain ⟨content, after⟩ := answer
  simp only [] at answered
  subst answered
  exact .edits isEdit revises

theorem attempt_effect (sound : store.Sound) (session : Text) (step : Step) :
    Effect store session step (store.attempt session step).1 (store.attempt session step).2 := by
  cases step with
  | create name entries =>
    rw [attempt, filled, always]
    cases filled : Form.draft.fill entries with
    | error cause => exact .reads (.refl session store)
    | ok draft =>
      rcases create_effect sound.numbered session name draft with
        refreshes | ⟨rule, stored, valid, called, fits, answered, refreshes⟩
      · exact effect_of_read refreshes _
      · exact effect_of_create filled valid called fits answered refreshes
  | get id => exact effect_of_read (load_refreshes store session id) _
  | list => exact effect_of_read (list_refreshes sound) _
  | update id expected entries =>
    rw [attempt, filled, always]
    cases filled : Form.draft.fill entries with
    | error cause => exact .reads (.refl session store)
    | ok draft =>
      rcases edit_effect sound id expected (fun _ => draft.toRule) rfl with
        refreshes | ⟨row, rule, named, valid, revises⟩
      · exact effect_of_read refreshes _
      · exact effect_of_edit (.update named filled valid) revises
  | switchKind id expected kind anchor =>
    rcases edit_effect sound id expected (switchedRule · kind anchor) rfl with
      refreshes | ⟨row, rule, named, valid, revises⟩
    · exact effect_of_read refreshes _
    · exact effect_of_edit (.switchKind named valid) revises
  | rule id => exact effect_of_read (loadRule_refreshes store session id) _
  | dates id bound => exact effect_of_read (loadRule_refreshes store session id) _
  | expire => exact .reads (Refreshes.refl session store).forget

/-- A step that fails may also forget. -/
theorem Effect.forget {step : Step} {cause : Error} {after : Store}
    (effect : Effect store session step (.error cause) after) :
    Effect store session step (.error cause) (after.forget session) := by
  cases effect with
  | reads refreshes => exact .reads refreshes.forget

/-- A step does what it attempts, and may forget when it fails. -/
theorem step_fst (store : Store) (session : Text) (step : Step) :
    (store.step session step).1 = (store.attempt session step).1 := by
  unfold Store.step
  cases store.attempt session step with
  | mk answer after => cases answer <;> rfl

theorem step_rows (store : Store) (session : Text) (step : Step) :
    (store.step session step).2.rows = (store.attempt session step).2.rows := by
  unfold Store.step
  cases store.attempt session step with
  | mk answer after =>
    cases answer with
    | ok outcome => rfl
    | error cause =>
      simp only []
      split <;> rfl

theorem attempt_of_step {step : Step} {outcome : Outcome}
    (answered : (store.step session step).1 = .ok outcome) :
    store.attempt session step = (.ok outcome, (store.step session step).2) := by
  unfold Store.step at answered ⊢
  cases attempted : store.attempt session step with
  | mk answer after =>
    rw [attempted] at answered
    cases answer with
    | ok result =>
      cases answered
      rfl
    | error cause => cases answered

/-- **Every step reads, appends a row or edits one.** -/
theorem step_effect (sound : store.Sound) (session : Text) (step : Step) :
    Effect store session step (store.step session step).1 (store.step session step).2 := by
  have effect := attempt_effect sound session step
  unfold Store.step
  cases attempted : store.attempt session step with
  | mk answer after =>
    rw [attempted] at effect
    cases answer with
    | ok outcome => exact effect
    | error cause =>
      simp only []
      split
      · exact effect
      · exact effect.forget

/-! ### What follows of an effect -/

namespace Effect

variable {step : Step} {answer : Except Error Outcome} {after : Store}

theorem sound (effect : Effect store session step answer after) (sound : store.Sound) :
    after.Sound := by
  cases effect with
  | reads refreshes => exact refreshes.sound sound
  | creates _ _ _ _ refreshes => exact refreshes.sound (sound.insert rfl)
  | edits _ revises =>
    exact revises.refreshes.sound (sound.put revises.stored (Record.precedes_revise ..))

/-- **A row stays as it is unless it is edited.** -/
theorem row?_eq (effect : Effect store session step answer after) {id : Int} {row : Record}
    (stored : store.row? id = some row) :
    after.row? id = some row ∨
      ∃ expected rule, step.Edits row expected rule ∧
        (Value.int row.version).equivalent expected = true ∧
        answer = .ok (.record (row.revise rule)) ∧
        ∀ other, after.row? other =
          if other = id then some (row.revise rule) else store.row? other := by
  cases effect with
  | reads refreshes =>
    rw [refreshes.row?_eq]
    exact Or.inl stored
  | creates _ _ _ _ refreshes =>
    left
    rw [refreshes.row?_eq, row?_insert, stored]
    rfl
  | @edits _ edited expected rule _ isEdit revises =>
    by_cases own : id = edited.id
    · have same : edited = row := by
        rw [own, revises.stored] at stored
        exact Option.some_inj.mp stored
      subst same
      refine Or.inr ⟨expected, rule, isEdit, revises.version, rfl, fun other => ?_⟩
      rw [revises.refreshes.row?_eq, revises.row?_put, own]
    · left
      rw [revises.refreshes.row?_eq, revises.row?_put, if_neg own, stored]

/-- **A row that is new is at version 1.** -/
theorem version_eq_one (effect : Effect store session step answer after) {id : Int} {row : Record}
    (missing : store.row? id = none) (stored : after.row? id = some row) : row.version = 1 := by
  cases effect with
  | reads refreshes =>
    rw [refreshes.row?_eq, missing] at stored
    cases stored
  | creates _ _ _ _ refreshes =>
    rw [refreshes.row?_eq, row?_insert, missing, Option.none_or] at stored
    split at stored
    · rw [← Option.some_inj.mp stored]
      rfl
    · cases stored
  | edits _ revises =>
    rw [revises.refreshes.row?_eq, revises.row?_put] at stored
    split at stored
    · rename_i own
      rw [own, revises.stored] at missing
      cases missing
    · rw [missing] at stored
      cases stored

end Effect

end Store

end Recurrence
