/-
**Working with stored drafts.**

A `Step` is what a session asks of the store, with its arguments as they stand on a form.
`Store.step` answers it and gives the store afterwards; `Store.run` takes the steps of several
sessions in any order. What is wrong with an edit is reported in a fixed order: the number of the
draft, the draft's fields, the expected version, an interval that cannot be stored, and last a
change by another session. A session forgets what it has read when it saves or fails to, and when a
step fails otherwise than by a refused rule, a missing draft or an unexpected version.

* `Store.run_append`: a run can be continued.
-/
import Recurrence.Rule.Switch
import Recurrence.Sequence.Dates
import Recurrence.Store.Basic

namespace Recurrence

/-- What a session asks of the store. -/
inductive Step where
  | create (name : Value) (draft : List (Text × Value))
  | get (id : Value)
  | list
  | update (id expectedVersion : Value) (draft : List (Text × Value))
  | switchKind (id expectedVersion kind anchor : Value)
  | rule (id : Value)
  | dates (id : Value) (bound : List (Text × Value))
  | expire
deriving DecidableEq

/-- What the store answers. -/
inductive Outcome where
  | record (record : Record)
  | records (records : List Record)
  | rule (rule : Rule)
  | dates (dates : List Date)
  | done
deriving DecidableEq

/-- Whether a step may fail so. A session goes on after such a failure with what it remembers. -/
def Error.isForeseen : Error → Bool
  | rule .unwritable => false
  | rule _ => true
  | store (.notFound _) | store (.staleVersion ..) | store (.modifiedConcurrently _) => true
  | _ => false

namespace Store

/-- An answer of the store and the store afterwards. -/
abbrev Answer (α : Type) := Except Error α × Store

/-- Goes on with an answer unless it is a failure. -/
def Answer.andThen {α β : Type} (answer : Answer α) (next : α → Store → Answer β) : Answer β :=
  match answer with
  | (.ok content, store) => next content store
  | (.error cause, store) => (.error cause, store)

/-- Something that does not depend on the store. -/
def always {α : Type} (store : Store) (result : Except Error α) : Answer α := (result, store)

/-! ### Reading -/

/-- The number of a draft that a value stands for: a whole number, however it is given. Text has to
be a decimal number, with white space around it. -/
def number? (id : Value) : Option Int :=
  match id with
  | .text written => do
    (← Double.ofWritten? (Text.trim Char.isWhitespace (← written.chars?))).toInt?
  | .double value => value.toInt?
  | other => other.number?.bind Number.whole?

/-- The record with a number as the session remembers it, or else as it is stored. -/
def load (store : Store) (session : Text) (id : Value) : Answer Record :=
  let missing : Answer Record := (.error (.store (.notFound id)), store)
  match number? id with
  | none => missing
  | some number =>
    if Fits64 number then
      match store.remembered session number with
      | some record => (.ok record, store)
      | none =>
        match store.row? number with
        | some row => (.ok row, store.remember session row)
        | none => missing
    else if id = .int number then (.error (.store .numberTooWide), store.forget session)
    else missing

/-- The record with a number as it is stored, after the session has forgotten what it had read. The
number is that of a row, so its width is not looked at. -/
def reload (store : Store) (session : Text) (id : Int) : Answer Record :=
  let forgotten := store.forget session
  match forgotten.row? id with
  | some row => (.ok row, forgotten.remember session row)
  | none => (.error (.store (.notFound (.int id))), forgotten)

/-- All records in order, each as the session remembers it or else as it is stored. -/
def list (store : Store) (session : Text) : Answer (List Record) :=
  let records := store.rows.map fun row => (store.remembered session row.id).getD row
  (.ok records, records.foldl (fun store record => store.remember session record) store)

/-- The rule of the record with a number. -/
def loadRule (store : Store) (session : Text) (id : Value) : Answer Rule :=
  (store.load session id).andThen fun record store => store.always record.toRule

/-! ### Writing -/

/-- A name as it is stored: without blanks around it. -/
def storedName (name : Value) : Except Error String := do
  let name ← (name.asText "strip").mapError .mismatch
  name.stripped.stored.mapError .store

/-- Makes a row of a draft. The rule is made first; the name is looked at before the interval. -/
def create (store : Store) (session : Text) (name : Value) (draft : Draft) : Answer Record :=
  (store.always (do return (← draft.toRule, ← storedName name))).andThen fun (rule, name) store =>
    if Fits64 rule.interval then
      let record := (Record.blank store.nextId name).write rule
      (store.insert record).reload session record.id
    else (.error (.store .numberTooWide), store.forget session)

/-- Saves a rule in the row of a record that the session has read. Nothing is written when the rule
is the one read; otherwise the row has to be at the version read, and goes to the next one. -/
def save (store : Store) (session : Text) (read : Record) (expectedVersion : Value) (rule : Rule) :
    Answer Record :=
  let edited := read.write rule
  if ¬ (Value.int read.version).equivalent expectedVersion then
    (.error (.stale read.id read.version expectedVersion), store)
  else if edited = read then store.reload session read.id
  else if ¬ Fits64 rule.interval then
    (.error (.store .numberTooWide), store.forget session)
  else
    match store.rows.find? fun row => row.id = read.id ∧ row.version = read.version with
    | none => (.error (.store (.modifiedConcurrently read.id)), store.forget session)
    | some row =>
      let written := { row with
        version := row.version + 1
        columns := .overwrite row.columns read.columns edited.columns }
      (store.put written).reload session read.id

/-- Replaces the rule of a row by that of a draft. -/
def update (store : Store) (session : Text) (id expectedVersion : Value) (draft : Draft) :
    Answer Record :=
  (store.load session id).andThen fun read store =>
    (store.always draft.toRule).andThen fun rule store =>
      store.save session read expectedVersion rule

/-- The rule of a record switched to another kind. -/
def switchedRule (read : Record) (kind anchor : Value) : Except Error Rule := do
  (← (← read.toDraft).switchKind kind anchor).toRule

/-- Switches the rule of a row to another kind. -/
def switchKind (store : Store) (session : Text) (id expectedVersion kind anchor : Value) :
    Answer Record :=
  (store.load session id).andThen fun read store =>
    (store.always (switchedRule read kind anchor)).andThen fun rule store =>
      store.save session read expectedVersion rule

/-! ### Steps -/

/-- The draft that entries make. -/
def filled (store : Store) (entries : List (Text × Value)) : Answer Draft :=
  store.always ((Form.draft.fill entries).mapError .form)

/-- Answers one step of a session, which forgets nothing of its own accord. -/
def attempt (store : Store) (session : Text) : Step → Answer Outcome
  | .create name entries => (store.filled entries).andThen fun draft store =>
    (store.create session name draft).andThen fun record store => (.ok (.record record), store)
  | .get id => (store.load session id).andThen fun record store => (.ok (.record record), store)
  | .list => (store.list session).andThen fun records store => (.ok (.records records), store)
  | .update id expectedVersion entries => (store.filled entries).andThen fun draft store =>
    (store.update session id expectedVersion draft).andThen fun record store =>
      (.ok (.record record), store)
  | .switchKind id expectedVersion kind anchor =>
    (store.switchKind session id expectedVersion kind anchor).andThen fun record store =>
      (.ok (.record record), store)
  | .rule id => (store.loadRule session id).andThen fun rule store => (.ok (.rule rule), store)
  | .dates id bound => (store.loadRule session id).andThen fun rule store =>
    store.always (do return .dates (← rule.dates (← Bound.ofEntries bound)))
  | .expire => (.ok .done, store.forget session)

/-- Answers one step of a session. -/
def step (store : Store) (session : Text) (step : Step) : Answer Outcome :=
  match store.attempt session step with
  | (.ok outcome, store) => (.ok outcome, store)
  | (.error cause, store) =>
    (.error cause, if cause.isForeseen then store else store.forget session)

/-- Answers the steps of several sessions, one after the other. -/
def run (store : Store) : List (Text × Step) → List (Except Error Outcome) × Store
  | [] => ([], store)
  | (session, step) :: steps =>
    let (answer, store) := store.step session step
    let (answers, store) := store.run steps
    (answer :: answers, store)

/-- A run can be continued. -/
theorem run_append (store : Store) (first second : List (Text × Step)) :
    store.run (first ++ second) =
      ((store.run first).1 ++ ((store.run first).2.run second).1,
        ((store.run first).2.run second).2) := by
  induction first generalizing store with
  | nil => rfl
  | cons head rest ih => simp [run, ih]

end Store

end Recurrence
