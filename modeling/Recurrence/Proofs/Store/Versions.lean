/-
**No edit is lost.**

In every run of steps of several sessions a row changes only when a step edits it that expects the
version stored just before. Then the row goes to the next version, with the rule that the step has
validated in all of its columns, and no other row changes. So the version of a row counts its
changes.

* `Store.sound_run`: every store that steps lead to is sound;
* `Store.changes`: how often a row changes during a run;
* `Store.versionOf_run`: every change raises the version by one;
* `Store.kept_or_edited`: the outcome for a row of a single step, after any run.
-/
import Recurrence.Proofs.Store.Effect

namespace Recurrence

namespace Store

/-- **Every store that steps lead to is sound.** -/
theorem sound_run {store : Store} (sound : store.Sound) (steps : List (Text × Step)) :
    (store.run steps).2.Sound := by
  induction steps generalizing store with
  | nil => exact sound
  | cons head steps ih =>
    obtain ⟨session, step⟩ := head
    exact ih ((step_effect sound session step).sound sound)

/-- How often the row with a number changes during the steps. -/
def changes (store : Store) (id : Int) : List (Text × Step) → Nat
  | [] => 0
  | (session, step) :: steps =>
    let after := (store.step session step).2
    (if store.row? id ≠ none ∧ after.row? id ≠ store.row? id then 1 else 0) +
      after.changes id steps

/-- The version of the row with a number, or the one that it is going to begin with. -/
def versionOf (store : Store) (id : Int) : Int := (store.row? id).elim 1 (·.version)

/-- **Every change of a row raises its version by one.** -/
theorem versionOf_run {store : Store} (sound : store.Sound) (id : Int)
    (steps : List (Text × Step)) :
    (store.run steps).2.versionOf id = store.versionOf id + store.changes id steps := by
  induction steps generalizing store with
  | nil => exact (Int.add_zero _).symm
  | cons head steps ih =>
    obtain ⟨session, step⟩ := head
    have effect := step_effect sound session step
    have rest := ih (effect.sound sound)
    have once : (store.step session step).2.versionOf id = store.versionOf id +
        if store.row? id ≠ none ∧ (store.step session step).2.row? id ≠ store.row? id
          then 1 else 0 := by
      unfold versionOf
      cases stored : store.row? id with
      | none =>
        cases stored' : (store.step session step).2.row? id with
        | none => simp
        | some row => simp [effect.version_eq_one stored stored']
      | some row =>
        rcases effect.row?_eq stored with kept | ⟨_, rule, _, _, _, after⟩
        · simp [kept]
        · simp [after, row.revise_ne rule]
    show ((store.step session step).2.run steps).2.versionOf id = _
    rw [rest, once, changes]
    simp only [Int.natCast_add]
    split <;> omega

/-- The step is an edit of the row that expects the version stored and succeeds. The row goes to the
next version, with the rule validated in its columns, and the other rows stay. -/
def IsEditedBy (store : Store) (session : Text) (step : Step) (row : Record) : Prop :=
  ∃ expected rule, step.Edits row expected rule ∧
    (Value.int row.version).equivalent expected = true ∧
    (store.step session step).1 = .ok (.record (row.revise rule)) ∧
    ∀ id, (store.step session step).2.row? id =
      if id = row.id then some (row.revise rule) else store.row? id

/-- **No edit is lost.** After any run, a step leaves a row as it is or edits it at the version that
the step expects; and the version of the row is one more than the number of its changes. -/
theorem kept_or_edited (steps : List (Text × Step)) (session : Text) (step : Step) {id : Int}
    {row : Record} (stored : (empty.run steps).2.row? id = some row) :
    row.id = id ∧ row.version = 1 + empty.changes id steps ∧
      (((empty.run steps).2.step session step).2.row? id = some row ∨
        (empty.run steps).2.IsEditedBy session step row) := by
  have sound := sound_run sound_empty steps
  have number := id_of_row? stored
  have version := versionOf_run sound_empty id steps
  unfold versionOf at version
  rw [stored] at version
  refine ⟨number, version, ?_⟩
  rcases (step_effect sound session step).row?_eq stored with
    kept | ⟨expected, rule, isEdit, current, answered, after⟩
  · exact Or.inl kept
  · rw [← number] at after
    exact Or.inr ⟨expected, rule, isEdit, current, answered, after⟩

/-- A session creates a daily draft. -/
def creation : List (Text × Step) :=
  [("first", .create (.text "Backup")
    [("recurrence_type", .text "daily"), ("start_date", .date ⟨739618, by decide, by decide⟩)])]

/-- The day that it starts on. -/
def creationDay : Date := ⟨739618, by decide, by decide⟩

/-- Another session edits it to repeat every second day. -/
def edition : Step :=
  .update (.int 1) (.int 1)
    [("recurrence_type", .text "daily"), ("start_date", .date ⟨739618, by decide, by decide⟩),
      ("interval", .int 2)]

theorem edited_creation : ∃ row : Record, (empty.run creation).2.row? 1 = some row ∧
    row.version = 1 + empty.changes 1 creation ∧
    (empty.run creation).2.IsEditedBy "second" edition row := by
  have created : ((empty.run creation).2.row? 1).map Record.version = some 1 := by decide
  have changed : (((empty.run creation).2.step "second" edition).2.row? 1).map Record.version =
      some 2 := by decide
  obtain ⟨row, stored, first⟩ := Option.map_eq_some_iff.mp created
  obtain ⟨_, version, kept | edited⟩ := kept_or_edited creation "second" edition stored
  · rw [kept, Option.map_some, first] at changed
    cases changed
  · exact ⟨row, stored, version, edited⟩

end Store

end Recurrence
