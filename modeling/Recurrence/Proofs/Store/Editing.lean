/-
**Reading and editing stored drafts.**

An edit replaces a row by its next version, or it only reads. It replaces the row only when what the
session remembers of it is what is stored: the version is compared when the edit is saved, and equal
versions are equal records. So the rule that was validated stands in all columns, although only
those that differ from the remembered ones are written.

* `Store.load_eq_lookup`, `Store.load_ok`: what is read is an earlier state of a row;
* `Store.list_refreshes`: a list only reads;
* `Store.save_eq`: what saving comes to, by what the session has read;
* `Store.save_effect`: saving replaces the row if the session has read it as it is stored;
* `Store.edit_effect`: so an edit replaces the row by a rule made of the row itself;
* `Store.saved`, `Store.Saving`: what saving comes to, as far as other sessions can tell, by cases;
* `Store.edit_outcome`: so what an edit comes to.
-/
import Recurrence.Proofs.Store.Copies

namespace Recurrence

/-- The record with a rule written into its columns, at the next version. -/
def Record.revise (record : Record) (rule : Rule) : Record :=
  { record with version := record.version + 1, columns := .ofRule rule }

@[simp]
theorem Record.revise_id (record : Record) (rule : Rule) : (record.revise rule).id = record.id :=
  rfl

@[simp]
theorem Record.revise_version (record : Record) (rule : Rule) :
    (record.revise rule).version = record.version + 1 :=
  rfl

theorem Record.revise_ne (record : Record) (rule : Rule) : record.revise rule ≠ record :=
  fun same => Int.ne_of_gt (Int.lt_succ record.version) (congrArg Record.version same)

theorem Record.precedes_revise (record : Record) (rule : Rule) :
    record.Precedes (record.revise rule) where
  id := rfl
  name := rfl
  version := Int.le_of_lt (Int.lt_succ record.version)
  same equal := absurd equal (Int.ne_of_lt (Int.lt_succ record.version))

/-- Writing a rule changes nothing when it is the rule written before. -/
theorem Record.write_eq_iff {record : Record} {rule : Rule} :
    record.write rule = record ↔ record.columns = .ofRule rule := by
  refine ⟨fun same => (congrArg Record.columns same).symm, fun same => ?_⟩
  unfold Record.write
  rw [← same]

namespace Store

namespace Answer

variable {α β : Type} {store : Store}

theorem andThen_ok (content : α) (next : α → Store → Answer β) :
    Answer.andThen (.ok content, store) next = next content store :=
  rfl

/-- An answer that is gone on with succeeds only if it does so itself. -/
theorem andThen_eq_ok {answer : Answer α} {next : α → Store → Answer β} {result : β}
    {after : Store} (success : answer.andThen next = (.ok result, after)) :
    ∃ content between, answer = (.ok content, between) ∧
      next content between = (.ok result, after) := by
  obtain ⟨content, between⟩ := answer
  cases content with
  | error cause => cases success
  | ok content => exact ⟨content, between, rfl, success⟩

/-- An answer that is gone on with fails by itself, or by what follows. -/
theorem andThen_eq_error {answer : Answer α} {next : α → Store → Answer β} {cause : Error}
    {after : Store} (failure : answer.andThen next = (.error cause, after)) :
    answer = (.error cause, after) ∨ ∃ content between, answer = (.ok content, between) ∧
      next content between = (.error cause, after) := by
  obtain ⟨content, between⟩ := answer
  cases content with
  | error other =>
    cases failure
    exact Or.inl rfl
  | ok content => exact Or.inr ⟨content, between, rfl, failure⟩

end Answer

variable {store : Store} {session : Text}

/-! ### Reading -/

/-- What a value asks for where things have numbers: a number that is too wide is told from one that
nothing has. -/
def lookup {α : Type} (numbered : Int → Option α) (id : Value) : Except Error α :=
  let missing : Except Error α := .error (.store (.notFound id))
  match number? id with
  | none => missing
  | some number =>
    if Fits64 number then
      match numbered number with
      | some found => .ok found
      | none => missing
    else if id = .int number then .error (.store .numberTooWide)
    else missing

theorem lookup_eq_ok {α : Type} {numbered : Int → Option α} {id : Value} {found : α} :
    lookup numbered id = .ok found ↔
      ∃ number, number? id = some number ∧ Fits64 number ∧ numbered number = some found := by
  unfold lookup
  cases asked : number? id with
  | none => simp
  | some number =>
    by_cases narrow : Fits64 number
    · simp only [if_pos narrow]
      cases there : numbered number <;> simp [narrow, there]
    · simp only [if_neg narrow]
      split <;> simp [narrow]

theorem lookup_map {α β : Type} (numbered : Int → Option α) (f : α → β) (id : Value) :
    lookup (fun number => (numbered number).map f) id = (lookup numbered id).map f := by
  unfold lookup
  cases number? id with
  | none => rfl
  | some number =>
    simp only []
    split
    · cases numbered number <;> rfl
    · split <;> rfl

/-- **A session reads what it is shown.** -/
theorem load_eq_lookup (store : Store) (session : Text) (id : Value) :
    (store.load session id).1 = lookup (store.seen session) id := by
  unfold load lookup
  cases number? id with
  | none => rfl
  | some number =>
    by_cases narrow : Fits64 number
    · simp only [if_pos narrow, seen]
      cases store.remembered session number with
      | some copy => rfl
      | none => cases store.row? number <;> rfl
    · simp only [if_neg narrow]
      split <;> rfl

theorem load_refreshes (store : Store) (session : Text) (id : Value) :
    Refreshes session store (store.load session id).2 := by
  unfold load
  cases number? id with
  | none => exact .refl session store
  | some number =>
    simp only []
    split
    · cases store.remembered session number with
      | some record => exact .refl session store
      | none =>
        cases stored : store.row? number with
        | none => exact .refl session store
        | some row =>
          have here : store.row? row.id = some row := by
            rw [id_of_row? stored]
            exact stored
          exact (Refreshes.refl session store).remember (Or.inr here)
    · split
      · exact (Refreshes.refl session store).forget
      · exact .refl session store

/-- **What a session reads is an earlier state of a row,** and the row can be asked for by its
number. -/
theorem load_ok (sound : store.Sound) {id : Value} {record : Record}
    (loaded : (store.load session id).1 = .ok record) :
    ∃ row, number? id = some row.id ∧ Fits64 row.id ∧ store.row? row.id = some row ∧
      record.Precedes row := by
  rw [load_eq_lookup, lookup_eq_ok] at loaded
  obtain ⟨number, asked, narrow, shown⟩ := loaded
  obtain ⟨row, stored, before⟩ := sound.precedes_of_seen shown
  have place := id_of_row? stored
  subst place
  exact ⟨row, asked, narrow, stored, before⟩

theorem reload_refreshes (store : Store) (session : Text) (id : Int) :
    Refreshes session store (store.reload session id).2 := by
  unfold reload
  simp only []
  cases stored : (store.forget session).row? id with
  | none => exact (Refreshes.refl session store).forget
  | some row =>
    have here : store.row? row.id = some row := by
      rw [id_of_row? stored]
      exact stored
    exact ((Refreshes.refl session store).forget).remember (Or.inr here)

/-- A row is read as it is stored. -/
theorem reload_ok {id : Int} {row : Record} (stored : store.row? id = some row) :
    (store.reload session id).1 = .ok row := by
  have kept : (store.forget session).row? id = some row := stored
  unfold reload
  simp only [kept]

theorem list_rows (store : Store) (session : Text) :
    (store.list session).2.rows = store.rows := by
  unfold list
  simp only []
  generalize store.rows.map _ = records
  induction records generalizing store with
  | nil => rfl
  | cons record records ih => exact ih (store.remember session record)

/-- A list shows each row as the session remembers it, or as it is stored. -/
theorem list_refreshes (sound : store.Sound) :
    Refreshes session store (store.list session).2 := by
  have known : ∀ record ∈ store.rows.map fun row => (store.remembered session row.id).getD row,
      store.remembered session record.id = some record ∨
        store.row? record.id = some record := by
    intro record shown
    obtain ⟨row, inside, rfl⟩ := List.mem_map.mp shown
    cases copied : store.remembered session row.id with
    | none => exact Or.inr (sound.numbered.row?_of_mem inside)
    | some copy =>
      obtain ⟨former, stored, before⟩ := sound.copies session row.id copy copied
      have place : copy.id = row.id := before.id.trans (id_of_row? stored)
      left
      rw [Option.getD_some, place]
      exact copied
  have folded (records : List Record) : ∀ (current : Store), Refreshes session store current →
      (∀ record ∈ records, store.remembered session record.id = some record ∨
        store.row? record.id = some record) →
      Refreshes session store
        (records.foldl (fun store record => store.remember session record) current) := by
    induction records with
    | nil => exact fun current refreshes _ => refreshes
    | cons record records ih =>
      intro current refreshes known
      refine ih (current.remember session record) (refreshes.remember ?_) fun other later => ?_
      · exact known record (List.mem_cons_self ..)
      · exact known other (List.mem_cons_of_mem record later)
  exact folded _ store (.refl session store) known

/-- A row that is written after reading is read again as if nothing had been read. -/
theorem Refreshes.reload_put {before after : Store} (refreshes : Refreshes session before after)
    (record : Record) (id : Int) :
    (after.put record).reload session id = (before.put record).reload session id := by
  have forgotten : (after.put record).forget session = (before.put record).forget session :=
    congrArg (·.put record) refreshes.forget_eq
  unfold reload
  rw [forgotten]

theorem loadRule_refreshes (store : Store) (session : Text) (id : Value) :
    Refreshes session store (store.loadRule session id).2 := by
  have refreshes := load_refreshes store session id
  unfold loadRule
  cases loaded : store.load session id with
  | mk answer after =>
    rw [loaded] at refreshes
    cases answer with
    | error cause => exact refreshes
    | ok record => exact refreshes

/-! ### Writing -/

/-- A row is replaced by its next version with a rule, and read again: it is at the expected version
and held something else. -/
structure Revises (store : Store) (session : Text) (row : Record) (expected : Value) (rule : Rule)
    (answer : Answer Record) : Prop where
  stored : store.row? row.id = some row
  narrow : Fits64 row.id
  version : (Value.int row.version).equivalent expected = true
  changed : row.columns ≠ .ofRule rule
  fits : Fits64 rule.interval
  answer_eq : answer = (store.put (row.revise rule)).reload session row.id

namespace Revises

variable {row : Record} {expected : Value} {rule : Rule} {answer : Answer Record}

/-- What is written is found in the row's place, and the other rows are as before. -/
theorem row?_put (revises : Revises store session row expected rule answer) (id : Int) :
    (store.put (row.revise rule)).row? id =
      if id = row.id then some (row.revise rule) else store.row? id := by
  rw [Store.row?_put, Record.revise_id]
  by_cases own : id = row.id
  · rw [if_pos own, if_pos own, own, revises.stored]
    rfl
  · rw [if_neg own, if_neg own]

theorem answered (revises : Revises store session row expected rule answer) :
    answer.1 = .ok (row.revise rule) := by
  have written := revises.row?_put row.id
  rw [if_pos rfl] at written
  rw [revises.answer_eq]
  exact reload_ok written

theorem refreshes (revises : Revises store session row expected rule answer) :
    Refreshes session (store.put (row.revise rule)) answer.2 := by
  rw [revises.answer_eq]
  exact reload_refreshes _ session _

end Revises

/-- The row of a record is at the version of the record only if they are equal. -/
theorem find?_version (sound : store.Sound) {read row : Record}
    (stored : store.row? row.id = some row) (before : read.Precedes row) :
    (store.rows.find? fun row => row.id = read.id ∧ row.version = read.version) =
      if read = row then some row else none := by
  cases search : store.rows.find? fun row => row.id = read.id ∧ row.version = read.version with
  | none =>
    have different : read ≠ row := by
      intro same
      have missing := List.find?_eq_none.mp search row (mem_of_row? stored)
      simp [same] at missing
    rw [if_neg different]
  | some found =>
    have matching : found.id = read.id ∧ found.version = read.version := by
      simpa using List.find?_some search
    have inside : found ∈ store.rows := List.mem_of_find?_eq_some search
    have here : found = row :=
      sound.numbered.unique inside (mem_of_row? stored) (matching.1.trans before.id)
    subst here
    rw [if_pos (before.same matching.2.symm)]

/-- **What saving comes to.** The expected version is compared with what the session has read, then
the rule, then the version that is stored. -/
theorem save_eq (sound : store.Sound) (session : Text) {read row : Record}
    (stored : store.row? row.id = some row) (before : read.Precedes row) (expected : Value)
    (rule : Rule) :
    store.save session read expected rule =
      if ¬ (Value.int read.version).equivalent expected then
        (.error (.stale row.id read.version expected), store)
      else if read.columns = .ofRule rule then store.reload session row.id
      else if ¬ Fits64 rule.interval then (.error (.store .numberTooWide), store.forget session)
      else if read = row then (store.put (row.revise rule)).reload session row.id
      else (.error (.store (.modifiedConcurrently row.id)), store.forget session) := by
  have found := find?_version sound stored before
  unfold save
  by_cases current : read = row
  · subst current
    rw [if_pos rfl] at found ⊢
    simp only [found, Record.write_eq_iff, Columns.overwrite_self]
    rfl
  · rw [if_neg current] at found ⊢
    simp only [found, Record.write_eq_iff]
    rw [before.id]

/-- **Saving replaces the row by its next version if the session has read it as it is stored;**
otherwise it only reads. -/
theorem save_effect (sound : store.Sound) (session : Text) {read row : Record}
    (stored : store.row? row.id = some row) (narrow : Fits64 row.id) (before : read.Precedes row)
    (expected : Value) (rule : Rule) :
    Refreshes session store (store.save session read expected rule).2 ∨
      (read = row ∧
        Revises store session row expected rule (store.save session read expected rule)) := by
  rw [save_eq sound session stored before]
  by_cases version : (Value.int read.version).equivalent expected = true
  · rw [if_neg (not_not_intro version)]
    by_cases unchanged : read.columns = .ofRule rule
    · rw [if_pos unchanged]
      exact Or.inl (reload_refreshes store session row.id)
    · rw [if_neg unchanged]
      by_cases fits : Fits64 rule.interval
      · rw [if_neg (not_not_intro fits)]
        by_cases current : read = row
        · subst current
          rw [if_pos rfl]
          exact Or.inr ⟨rfl, stored, narrow, version, unchanged, fits, rfl⟩
        · rw [if_neg current]
          exact Or.inl (Refreshes.refl session store).forget
      · rw [if_pos fits]
        exact Or.inl (Refreshes.refl session store).forget
  · rw [if_pos version]
    exact Or.inl (.refl session store)

/-- **An edit of a row replaces it by its next version, with the rule made of the row itself;**
otherwise it only reads. -/
theorem edit_effect (sound : store.Sound) (id expected : Value)
    (ruleOf : Record → Except Error Rule) {answer : Answer Record}
    (edit : answer = (store.load session id).andThen fun read store =>
      (store.always (ruleOf read)).andThen fun rule store =>
        store.save session read expected rule) :
    Refreshes session store answer.2 ∨
      ∃ row rule, number? id = some row.id ∧ ruleOf row = .ok rule ∧
        Revises store session row expected rule answer := by
  have refreshes := load_refreshes store session id
  cases loaded : store.load session id with
  | mk result after =>
    rw [loaded] at refreshes edit
    cases result with
    | error cause =>
      rw [edit]
      exact Or.inl refreshes
    | ok read =>
      obtain ⟨row, number, narrow, stored, before⟩ := load_ok sound (congrArg Prod.fst loaded)
      rw [Answer.andThen_ok] at edit
      cases made : ruleOf read with
      | error cause =>
        rw [edit, made]
        exact Or.inl refreshes
      | ok rule =>
        rw [made] at edit
        have stored' : after.row? row.id = some row := (refreshes.row?_eq row.id).trans stored
        rcases save_effect (refreshes.sound sound) session stored' narrow before expected rule with
          read | ⟨current, revises⟩
        · rw [edit]
          exact Or.inl (refreshes.trans read)
        · subst current
          refine Or.inr ⟨read, rule, number, made, stored, narrow, revises.version,
            revises.changed, revises.fits, ?_⟩
          rw [edit, ← refreshes.reload_put]
          exact revises.answer_eq

/-- What saving a rule in a row comes to, as far as other sessions can tell: the answer and the rows
afterwards, by what the session has read of the row. -/
def saved (store : Store) (row read : Record) (expected : Value) (rule : Rule) :
    Except Error Record × List Record :=
  if ¬ (Value.int read.version).equivalent expected then
    (.error (.stale row.id read.version expected), store.rows)
  else if read.columns = .ofRule rule then (.ok row, store.rows)
  else if ¬ Fits64 rule.interval then (.error (.store .numberTooWide), store.rows)
  else if read = row then (.ok (row.revise rule), (store.put (row.revise rule)).rows)
  else (.error (.store (.modifiedConcurrently row.id)), store.rows)

/-- The cases of `saved`. -/
inductive Saving (store : Store) (row read : Record) (expected : Value) (rule : Rule) :
    Except Error Record × List Record → Prop
  | stale (version : ¬ (Value.int read.version).equivalent expected = true) :
    Saving store row read expected rule
      (.error (.stale row.id read.version expected), store.rows)
  | unchanged (version : (Value.int read.version).equivalent expected = true)
    (same : read.columns = .ofRule rule) : Saving store row read expected rule (.ok row, store.rows)
  | wide (version : (Value.int read.version).equivalent expected = true)
    (changed : read.columns ≠ .ofRule rule) (wide : ¬ Fits64 rule.interval) :
    Saving store row read expected rule (.error (.store .numberTooWide), store.rows)
  | revised (version : (Value.int read.version).equivalent expected = true)
    (changed : read.columns ≠ .ofRule rule) (fits : Fits64 rule.interval) (current : read = row) :
    Saving store row read expected rule
      (.ok (row.revise rule), (store.put (row.revise rule)).rows)
  | overtaken (version : (Value.int read.version).equivalent expected = true)
    (changed : read.columns ≠ .ofRule rule) (fits : Fits64 rule.interval) (former : read ≠ row) :
    Saving store row read expected rule
      (.error (.store (.modifiedConcurrently row.id)), store.rows)

theorem saving (store : Store) (row read : Record) (expected : Value) (rule : Rule) :
    Saving store row read expected rule (store.saved row read expected rule) := by
  unfold saved
  by_cases version : (Value.int read.version).equivalent expected = true
  · rw [if_neg (not_not_intro version)]
    by_cases same : read.columns = .ofRule rule
    · rw [if_pos same]
      exact .unchanged version same
    · rw [if_neg same]
      by_cases fits : Fits64 rule.interval
      · rw [if_neg (not_not_intro fits)]
        by_cases current : read = row
        · rw [if_pos current]
          exact .revised version same fits current
        · rw [if_neg current]
          exact .overtaken version same fits current
      · rw [if_pos fits]
        exact .wide version same fits
  · rw [if_pos version]
    exact .stale version

/-- **What an edit of a row comes to,** as far as other sessions can tell: the answer and the rows
afterwards, by what the session is shown of the row. -/
theorem edit_outcome (sound : store.Sound) {row read : Record}
    (stored : store.row? row.id = some row) (shown : store.seen session row.id = some read)
    {id : Value} (named : number? id = some row.id) (narrow : Fits64 row.id) (expected : Value)
    (ruleOf : Record → Except Error Rule) {answer : Answer Record}
    (edit : answer = (store.load session id).andThen fun read store =>
      (store.always (ruleOf read)).andThen fun rule store =>
        store.save session read expected rule) :
    (answer.1, answer.2.rows) =
      match ruleOf read with
      | .error cause => (.error cause, store.rows)
      | .ok rule => store.saved row read expected rule := by
  have refreshes := load_refreshes store session id
  have found : (store.load session id).1 = .ok read := by
    rw [load_eq_lookup, lookup_eq_ok]
    exact ⟨row.id, named, narrow, shown⟩
  cases loaded : store.load session id with
  | mk result after =>
    rw [loaded] at refreshes found edit
    simp only [] at refreshes found
    rw [found, Answer.andThen_ok] at edit
    cases made : ruleOf read with
    | error cause =>
      rw [edit, made]
      exact congrArg (Prod.mk _) refreshes.rows
    | ok rule =>
      rw [made] at edit
      have current : after.row? row.id = some row := (refreshes.row?_eq row.id).trans stored
      obtain ⟨_, same, before⟩ := sound.precedes_of_seen shown
      rw [stored, Option.some_inj] at same
      subst same
      have saved := save_eq (refreshes.sound sound) session current before expected rule
      have written : ((after.put (row.revise rule)).row? row.id) = some (row.revise rule) := by
        rw [Store.row?_put, Record.revise_id, if_pos rfl, current]
        rfl
      have rows : (after.put (row.revise rule)).rows = (store.put (row.revise rule)).rows := by
        unfold put
        rw [refreshes.rows]
      rw [edit]
      show ((after.save session read expected rule).1,
        (after.save session read expected rule).2.rows) = _
      rw [saved]
      simp only [Store.saved]
      split
      · exact congrArg (Prod.mk _) refreshes.rows
      · split
        · rw [reload_ok current, (reload_refreshes after session row.id).rows, refreshes.rows]
        · split
          · exact congrArg (Prod.mk _) refreshes.rows
          · split
            · rw [reload_ok written, (reload_refreshes _ session row.id).rows, rows]
            · exact congrArg (Prod.mk _) refreshes.rows

end Store

end Recurrence
