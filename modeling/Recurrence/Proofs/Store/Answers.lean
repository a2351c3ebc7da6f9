/-
**What each step is answered with.**

A step that reads is answered by what its session is shown. A step that creates or edits a draft is
answered with the record that it leaves, and the rows afterwards go with the answer: one more for
a draft that is created, and nothing else than before for a step that fails.

* `Store.step_get`, `Store.step_rule`, `Store.step_dates`: reading by number;
* `Store.Effect.rows_eq`, `Store.Effect.rows_of_error`: what only reads leaves the rows as they are,
  and so does what fails;
* `Store.create_outcome`: what the creation of a draft comes to;
* `Store.step_of_record`: the step of an operation on a record has its outcome.
-/
import Recurrence.Proofs.Store.Effect

namespace Recurrence

namespace Store

namespace Answer

variable {α β : Type}

theorem andThen_fst (answer : Answer α) (result : α → Except Error β) :
    (answer.andThen fun content store => (result content, store)).1 = answer.1.bind result := by
  obtain ⟨content, store⟩ := answer
  cases content <;> rfl

end Answer

variable {store : Store} {session : Text}

/-! ### Reading -/

theorem loadRule_eq (store : Store) (session : Text) (id : Value) :
    (store.loadRule session id).1 = (lookup (store.seen session) id).bind Record.toRule := by
  rw [← load_eq_lookup]
  exact Answer.andThen_fst _ _

theorem step_get (store : Store) (session : Text) (id : Value) :
    (store.step session (.get id)).1 =
      (lookup (store.seen session) id).bind fun record => .ok (.record record) := by
  rw [step_fst, ← load_eq_lookup]
  exact Answer.andThen_fst _ _

theorem step_rule (store : Store) (session : Text) (id : Value) :
    (store.step session (.rule id)).1 =
      ((lookup (store.seen session) id).bind Record.toRule).bind fun rule => .ok (.rule rule) := by
  rw [step_fst, ← loadRule_eq]
  exact Answer.andThen_fst _ _

theorem step_dates (store : Store) (session : Text) (id : Value) (bound : List (Text × Value)) :
    (store.step session (.dates id bound)).1 =
      ((lookup (store.seen session) id).bind Record.toRule).bind fun rule => do
        return .dates (← rule.dates (← Bound.ofEntries bound)) := by
  rw [step_fst, ← loadRule_eq]
  exact Answer.andThen_fst _ _

/-- **What neither creates nor edits a draft leaves the rows as they are.** -/
theorem Effect.rows_eq {step : Step} {answer : Except Error Outcome} {after : Store}
    (effect : Effect store session step answer after)
    (creates : ∀ name entries, step ≠ .create name entries)
    (edits : ∀ row expected rule, ¬ step.Edits row expected rule) : after.rows = store.rows := by
  cases effect with
  | reads refreshes => exact refreshes.rows
  | creates => exact absurd rfl (creates _ _)
  | edits isEdit => exact absurd isEdit (edits _ _ _)

/-- A step that fails leaves the rows as they are. -/
theorem Effect.rows_of_error {step : Step} {cause : Error} {after : Store}
    (effect : Effect store session step (.error cause) after) : after.rows = store.rows := by
  cases effect with
  | reads refreshes => exact refreshes.rows

/-! ### Writing -/

/-- **What the creation of a draft comes to:** the answer and the rows afterwards. -/
theorem create_outcome (numbered : store.Numbered) (session : Text) (name : Value)
    (draft : Draft) :
    ((store.create session name draft).1, (store.create session name draft).2.rows) =
      match (do return (← draft.toRule, ← storedName name) : Except Error (Rule × String)) with
      | .error cause => (.error cause, store.rows)
      | .ok (rule, stored) =>
        if Fits64 rule.interval then
          (.ok ((Record.blank store.nextId stored).write rule),
            store.rows ++ [(Record.blank store.nextId stored).write rule])
        else (.error (.store .numberTooWide), store.rows) := by
  unfold create always
  cases (do return (← draft.toRule, ← storedName name) : Except Error (Rule × String)) with
  | error cause => rfl
  | ok content =>
    obtain ⟨rule, stored⟩ := content
    simp only [Answer.andThen_ok]
    split
    · rw [reload_ok (numbered.row?_insert_self rfl), (reload_refreshes _ session _).rows]
      rfl
    · rfl

/-- **The step of an operation on a record has its outcome.** -/
theorem step_of_record {step : Step} {answer : Answer Record}
    (attempted : store.attempt session step =
      answer.andThen fun record store => (.ok (.record record), store)) :
    (store.step session step).1 = answer.1.map .record ∧
      (store.step session step).2.rows = answer.2.rows := by
  rw [step_fst, step_rows, attempted]
  obtain ⟨content, after⟩ := answer
  cases content <;> exact ⟨rfl, rfl⟩

theorem attempt_create {entries : List (Text × Value)} {draft : Draft}
    (filled : Form.draft.fill entries = .ok draft) (store : Store) (session : Text)
    (name : Value) :
    store.attempt session (.create name entries) =
      (store.create session name draft).andThen fun record store =>
        (.ok (.record record), store) := by
  rw [attempt, Store.filled, filled]
  rfl

theorem attempt_update {entries : List (Text × Value)} {draft : Draft}
    (filled : Form.draft.fill entries = .ok draft) (store : Store) (session : Text)
    (id expected : Value) :
    store.attempt session (.update id expected entries) =
      (store.update session id expected draft).andThen fun record store =>
        (.ok (.record record), store) := by
  rw [attempt, Store.filled, filled]
  rfl

end Store

end Recurrence
