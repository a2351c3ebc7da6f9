/-
**A version identifies a value.**

During a run a row only goes on to later versions, and each version of it is one record. Whatever a
session is shown has been stored at some time up to then: a copy may be old, but it never was
anything else. So two records of one number and one version are the same, whoever was shown them and
when, and no session is led back to an earlier version.

* `Store.reached`: the store after the first steps of a run;
* `Store.holds_reached`: what every step keeps holds on;
* `Store.row?_reached_precedes`: a row goes on to later states of it only;
* `Store.exists_stored_of_seen`: what a session is shown has been stored;
* `Store.Shows`: the records in the answers of a run;
* `Store.version_identifies`: what holds of any two of them.
-/
import Recurrence.Proofs.Store.Shown
import Recurrence.Proofs.Store.Versions

namespace Recurrence

namespace Store

variable {store : Store} {steps : List (Text × Step)}

/-! ### Stores during a run -/

/-- The store after the first steps of a run. -/
def reached (store : Store) (steps : List (Text × Step)) (count : Nat) : Store :=
  (store.run (steps.take count)).2

theorem reached_succ {count : Nat} {session : Text} {step : Step}
    (taken : steps[count]? = some (session, step)) :
    store.reached steps (count + 1) = ((store.reached steps count).step session step).2 := by
  unfold reached
  rw [List.take_add_one, taken, run_append]
  rfl

/-- From one number of steps to the next there is a step, or the run is over. -/
theorem reached_succ_cases (store : Store) (steps : List (Text × Step)) (count : Nat) :
    store.reached steps (count + 1) = store.reached steps count ∨
      ∃ session step,
        store.reached steps (count + 1) = ((store.reached steps count).step session step).2 := by
  cases taken : steps[count]? with
  | none =>
    left
    unfold reached
    rw [List.take_add_one, taken, Option.toList_none, List.append_nil]
  | some next => exact Or.inr ⟨next.1, next.2, reached_succ taken⟩

theorem sound_reached (sound : store.Sound) (steps : List (Text × Step)) (count : Nat) :
    (store.reached steps count).Sound :=
  sound_run sound _

/-- Every answer of a run is that of a step in the store reached before it. -/
theorem getElem?_run (store : Store) (steps : List (Text × Step)) (index : Nat) :
    (store.run steps).1[index]? = steps[index]?.map fun taken =>
      ((store.reached steps index).step taken.1 taken.2).1 := by
  induction steps generalizing store index with
  | nil => rfl
  | cons head steps ih =>
    obtain ⟨session, step⟩ := head
    cases index with
    | zero => rfl
    | succ index => exact ih (store.step session step).2 index

/-- **What every step keeps holds on.** -/
theorem holds_reached (Holds : Store → Prop)
    (kept : ∀ current : Store, current.Sound → Holds current →
      ∀ session step, Holds (current.step session step).2)
    (sound : store.Sound) {earlier later : Nat} (order : earlier ≤ later)
    (holds : Holds (store.reached steps earlier)) : Holds (store.reached steps later) := by
  induction order with
  | refl => exact holds
  | @step count _ ih =>
    rcases store.reached_succ_cases steps count with ended | ⟨session, step, next⟩
    · rw [ended]
      exact ih
    · rw [next]
      exact kept _ (sound_reached sound steps count) ih session step

/-- **A row goes on to later states of it only.** -/
theorem row?_reached_precedes (sound : store.Sound) {earlier later : Nat} (order : earlier ≤ later)
    {id : Int} {row : Record} (stored : (store.reached steps earlier).row? id = some row) :
    ∃ row', (store.reached steps later).row? id = some row' ∧ row.Precedes row' := by
  refine holds_reached (fun current => ∃ row', current.row? id = some row' ∧ row.Precedes row')
    (fun current sound holds session step => ?_) sound order ⟨row, stored, .refl row⟩
  obtain ⟨between, stored, before⟩ := holds
  obtain ⟨row', stored', after⟩ := (step_effect sound session step).row?_precedes stored
  exact ⟨row', stored', before.trans after⟩

/-- No session is led back to an earlier version. -/
theorem seen_reached_le (sound : store.Sound) {earlier later : Nat} (order : earlier ≤ later)
    {session : Text} {id : Int} {record : Record}
    (shown : (store.reached steps earlier).seen session id = some record) :
    ∃ record', (store.reached steps later).seen session id = some record' ∧
      record.version ≤ record'.version := by
  refine holds_reached (fun current => ∃ record', current.seen session id = some record' ∧
    record.version ≤ record'.version) (fun current sound holds other step => ?_) sound order
    ⟨record, shown, Int.le_refl _⟩
  obtain ⟨between, shown, before⟩ := holds
  obtain ⟨record', shown', after⟩ := (step_effect sound other step).seen_le sound shown
  exact ⟨record', shown', Int.le_trans before after⟩

/-! ### Where copies come from -/

/-- What a session remembers has been stored. -/
theorem exists_stored_of_remembered {count : Nat} {session : Text} {id : Int} {copy : Record}
    (known : (empty.reached steps count).remembered session id = some copy) :
    ∃ earlier ≤ count, (empty.reached steps earlier).row? id = some copy := by
  induction count with
  | zero =>
    have nothing : (empty.reached steps 0).remembered session id = none := by
      unfold reached
      rw [List.take_zero]
      rfl
    rw [nothing] at known
    cases known
  | succ count ih =>
    have further (known : (empty.reached steps count).remembered session id = some copy) :
        ∃ earlier ≤ count + 1, (empty.reached steps earlier).row? id = some copy := by
      obtain ⟨earlier, order, stored⟩ := ih known
      exact ⟨earlier, Nat.le_succ_of_le order, stored⟩
    rcases empty.reached_succ_cases steps count with ended | ⟨other, step, next⟩
    · rw [ended] at known
      exact further known
    · have effect := step_effect (sound_reached sound_empty steps count) other step
      rw [next] at known
      rcases effect.remembered known with before | current
      · exact further before
      · exact ⟨count + 1, Nat.le_refl _, by rw [next, current]⟩

/-- **What a session is shown has been stored.** -/
theorem exists_stored_of_seen {count : Nat} {session : Text} {id : Int} {record : Record}
    (shown : (empty.reached steps count).seen session id = some record) :
    ∃ earlier ≤ count, (empty.reached steps earlier).row? id = some record := by
  cases known : (empty.reached steps count).remembered session id with
  | none =>
    rw [seen_of_unknown known] at shown
    exact ⟨count, Nat.le_refl count, shown⟩
  | some copy =>
    rw [seen_of_remembered known] at shown
    rw [← Option.some_inj.mp shown]
    exact exists_stored_of_remembered known

/-! ### Records in answers -/

/-- The records in an answer of a run from the empty table. -/
def shownAt (steps : List (Text × Step)) (index : Nat) : List Record :=
  match (empty.run steps).1[index]? with
  | some (.ok outcome) => outcome.shown
  | _ => []

/-- A step of a session, at its place in a run from the empty table, is answered with a record. -/
def Shows (steps : List (Text × Step)) (index : Nat) (session : Text) (record : Record) : Prop :=
  steps[index]?.map Prod.fst = some session ∧ record ∈ shownAt steps index

/-- The session goes on with the record. -/
theorem Shows.seen {index : Nat} {session : Text} {record : Record}
    (shows : Shows steps index session record) :
    (empty.reached steps (index + 1)).seen session record.id = some record := by
  obtain ⟨own, inside⟩ := shows
  obtain ⟨⟨_, step⟩, taken, rfl⟩ := Option.map_eq_some_iff.mp own
  unfold shownAt at inside
  rw [getElem?_run, taken, Option.map_some] at inside
  rw [reached_succ taken]
  cases answered : ((empty.reached steps index).step _ step).1 with
  | error cause =>
    rw [answered] at inside
    cases inside
  | ok outcome =>
    rw [answered] at inside
    exact step_shows (sound_reached sound_empty steps index) answered inside

/-- **A version identifies a value.** Two records of one number and version that appear in the
answers of a run are the same; a session is never shown an earlier version than before, nor a later
one than is stored. -/
theorem version_identifies (steps : List (Text × Step)) :
    (∀ index index' session session' first second, Shows steps index session first →
      Shows steps index' session' second → first.id = second.id →
      first.version = second.version → first = second) ∧
    (∀ earlier later session first second, earlier ≤ later → Shows steps earlier session first →
      Shows steps later session second → first.id = second.id →
      first.version ≤ second.version) ∧
    ∀ index session record, Shows steps index session record →
      ∃ row, (empty.reached steps (index + 1)).row? record.id = some row ∧
        record.version ≤ row.version := by
  refine ⟨?_, ?_, ?_⟩
  · intro index index' session session' first second shows shows' number version
    obtain ⟨time, _, stored⟩ := exists_stored_of_seen shows.seen
    obtain ⟨time', _, stored'⟩ := exists_stored_of_seen shows'.seen
    rw [← number] at stored'
    -- The record that was stored first is an earlier state of the other one.
    rcases Nat.le_total time time' with order | order
    · obtain ⟨row, current, before⟩ := row?_reached_precedes sound_empty order stored
      rw [current] at stored'
      rw [← Option.some_inj.mp stored'] at version ⊢
      exact before.same version
    · obtain ⟨row, current, before⟩ := row?_reached_precedes sound_empty order stored'
      rw [current] at stored
      rw [← Option.some_inj.mp stored] at version ⊢
      exact (before.same version.symm).symm
  · intro earlier later session first second order shows shows' number
    obtain ⟨record, shown, version⟩ :=
      seen_reached_le sound_empty (Nat.succ_le_succ order) shows.seen
    have last := shows'.seen
    rw [← number, shown] at last
    rw [← Option.some_inj.mp last]
    exact version
  · intro index session record shows
    obtain ⟨row, stored, before⟩ :=
      (sound_reached sound_empty steps (index + 1)).precedes_of_seen shows.seen
    exact ⟨row, stored, before.version⟩

/-- One session creates and edits a draft, another one reads it in between and lists it after. -/
def interleaving : List (Text × Step) :=
  creation ++
    ([("second", .get (.int 1)), ("first", edition), ("second", .list)] : List (Text × Step))

theorem interleaving_identified : ∃ created edited listed row : Record,
    Shows interleaving 0 "first" created ∧ Shows interleaving 2 "first" edited ∧
      Shows interleaving 3 "second" listed ∧ created.version ≤ edited.version ∧ listed = created ∧
      (empty.reached interleaving 4).row? listed.id = some row ∧ listed.version ≤ row.version := by
  have first : ∃ record ∈ shownAt interleaving 0, record.id = 1 ∧ record.version = 1 := by decide
  have second : ∃ record ∈ shownAt interleaving 2, record.id = 1 := by decide
  have third : ∃ record ∈ shownAt interleaving 3, record.id = 1 ∧ record.version = 1 := by decide
  obtain ⟨created, inside, number, version⟩ := first
  obtain ⟨edited, insideEdited, numberEdited⟩ := second
  obtain ⟨listed, insideListed, numberListed, versionListed⟩ := third
  have creates : Shows interleaving 0 "first" created := ⟨rfl, inside⟩
  have edits : Shows interleaving 2 "first" edited := ⟨rfl, insideEdited⟩
  have lists : Shows interleaving 3 "second" listed := ⟨rfl, insideListed⟩
  obtain ⟨identified, increasing, bounded⟩ := version_identifies interleaving
  obtain ⟨row, stored, order⟩ := bounded 3 "second" listed lists
  refine ⟨created, edited, listed, row, creates, edits, lists, ?_, ?_, stored, order⟩
  · exact increasing 0 2 "first" created edited (by decide) creates edits
      (number.trans numberEdited.symm)
  · exact identified 3 0 "second" "first" listed created lists creates
      (numberListed.trans number.symm) (versionListed.trans version.symm)

end Store

end Recurrence
