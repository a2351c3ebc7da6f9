/-
**A session that is not interrupted works on a catalogue.**

What a session remembers is what is stored as long as no other session has edited it in between. A
session that has not read anything is in that position, and so is one that works alone; and every
step of it is answered as the catalogue of the drafts answers it, and leaves the rows of the
catalogue that the step leaves.

* `Store.IsCurrent`: a session remembers nothing but what is stored;
* `Store.Effect.current`, `Store.Effect.others_eq`: a step leaves its session so and the memory of
  other sessions alone;
* `Store.Represents`: the rows are those of a catalogue;
* `Store.step_refines`, `Store.run_refines`: steps and runs are those of the catalogue;
* `Store.run_catalog`: so are runs of sessions of their own, and runs of one session.
-/
import Recurrence.Proofs.Store.Canonical
import Recurrence.Proofs.Store.Catalog

namespace Recurrence

/-- What a change of a catalogue comes to: the record that is written, and all records. -/
def Catalog.outcome (catalog : Catalog) (change : Except Error (Int × Entry)) :
    Except Error Record × List Record :=
  match change with
  | .ok (number, entry) => (.ok (entry.record number), (catalog.put number entry).records)
  | .error cause => (.error cause, catalog.records)

namespace Store

variable {store after : Store} {session : Text}

/-! ### Sessions that are current -/

/-- The session remembers nothing but what is stored. -/
def IsCurrent (store : Store) (session : Text) : Prop :=
  ∀ (id : Int) (copy : Record), store.remembered session id = some copy →
    store.row? id = some copy

theorem IsCurrent.seen_eq (current : store.IsCurrent session) (id : Int) :
    store.seen session id = store.row? id := by
  cases known : store.remembered session id with
  | none => exact seen_of_unknown known
  | some copy => rw [seen_of_remembered known, current id copy known]

theorem Refreshes.current (refreshes : Refreshes session store after)
    (current : store.IsCurrent session) : after.IsCurrent session := by
  intro id copy known
  rw [refreshes.row?_eq]
  exact (refreshes.own id copy known).elim (current id copy) fun stored => stored

/-- Once it has read a row anew, a session remembers nothing else. -/
theorem reload_current (store : Store) (session : Text) (id : Int) :
    (store.reload session id).2.IsCurrent session := by
  have forgotten : (store.forget session).IsCurrent session := by
    intro other copy known
    simp [forget] at known
  unfold reload
  simp only []
  cases stored : (store.forget session).row? id with
  | none => exact forgotten
  | some row =>
    have here : (store.forget session).row? row.id = some row := by
      rw [id_of_row? stored]
      exact stored
    exact ((Refreshes.refl session _).remember (Or.inr here)).current forgotten

namespace Effect

variable {step : Step} {answer : Except Error Outcome}

/-- **A step leaves its session current.** -/
theorem current (effect : Effect store session step answer after)
    (current : store.IsCurrent session) : after.IsCurrent session := by
  cases effect with
  | reads refreshes => exact refreshes.current current
  | creates _ _ _ _ refreshes =>
    refine refreshes.current fun id copy known => ?_
    rw [row?_insert, current id copy known, Option.some_or]
  | edits _ revises =>
    have reread := congrArg Prod.snd revises.answer_eq
    simp only [] at reread
    rw [reread]
    exact reload_current _ session _

/-- **A step leaves the memory of other sessions alone.** -/
theorem others_eq (effect : Effect store session step answer after) {other : Text}
    (different : other ≠ session) (id : Int) :
    after.remembered other id = store.remembered other id := by
  cases effect with
  | reads refreshes => exact refreshes.others other id different
  | creates _ _ _ _ refreshes => exact refreshes.others other id different
  | edits _ revises => exact revises.refreshes.others other id different

end Effect

/-! ### Stores that are catalogues -/

/-- The rows are those of a catalogue. -/
structure Represents (store : Store) (catalog : Catalog) : Prop where
  sound : store.Sound
  holds : store.HoldsRules
  rows : store.rows = catalog.records

namespace Represents

variable {catalog : Catalog}

/-- **A session that is current is shown the entries of the catalogue.** -/
theorem lookup_eq (represents : store.Represents catalog) (current : store.IsCurrent session)
    (id : Value) :
    lookup (store.seen session) id =
      (catalog.find id).map fun found => found.2.record found.1 := by
  have same : store.seen session =
      fun number => (catalog.entry? number).map fun found => found.2.record found.1 := by
    funext number
    rw [current.seen_eq, represents.sound.numbered.row?_records represents.rows]
  rw [same, lookup_map]
  rfl

theorem list_eq (represents : store.Represents catalog) (current : store.IsCurrent session) :
    (store.list session).1 = .ok catalog.records := by
  have same : store.rows.map (fun row => (store.remembered session row.id).getD row) =
      store.rows := by
    refine (List.map_congr_left fun row inside => ?_).trans (List.map_id _)
    have stored := represents.sound.numbered.row?_of_mem inside
    cases known : store.remembered session row.id with
    | none => rfl
    | some copy =>
      rw [current row.id copy known] at stored
      exact Option.some_inj.mp stored
  unfold list
  simp only [same]
  rw [represents.rows]

/-- The row of an entry. -/
theorem row?_eq (represents : store.Represents catalog) {id number : Int} {entry : Entry}
    (there : catalog.entry? id = some (number, entry)) :
    store.row? id = some (entry.record number) := by
  rw [represents.sound.numbered.row?_records represents.rows, there]
  rfl

/-- The interval of an entry can be stored. -/
theorem fits (represents : store.Represents catalog) {id number : Int} {entry : Entry}
    (there : catalog.entry? id = some (number, entry)) : Fits64 entry.rule.interval := by
  obtain ⟨rule, holds⟩ := represents.holds _ (mem_of_row? (represents.row?_eq there))
  rw [Columns.ofRule_inj.mp holds.columns]
  exact holds.fits

/-- **What saving a rule in the row of an entry comes to is the edit of the entry.** -/
theorem saved_eq (represents : store.Represents catalog) {number : Int} {entry : Entry}
    (there : catalog.entry? number = some (number, entry)) (expected : Value) (rule : Rule) :
    store.saved (entry.record number) (entry.record number) expected rule =
      catalog.outcome ((entry.edit number expected rule).map (Prod.mk number)) := by
  obtain ⟨_, first, place⟩ := Catalog.entry?_eq_some.mp there
  have fits := represents.fits there
  have saving := store.saving (entry.record number) (entry.record number) expected rule
  generalize store.saved (entry.record number) (entry.record number) expected rule = saved at saving
  unfold Entry.edit
  cases saving with
  | stale version =>
    rw [Entry.record_version] at version
    rw [if_pos version, represents.rows]
    rfl
  | unchanged version same =>
    rw [Entry.record_version] at version
    -- The rule has been stored before, so it does not fail for its interval.
    rw [← Columns.ofRule_inj.mp same, if_neg (not_not_intro version),
      if_neg (not_not_intro fits), entry.revise_self]
    show _ = (_, (catalog.put number entry).records)
    rw [Catalog.put_self first place, represents.rows]
  | wide version _ wide =>
    rw [Entry.record_version] at version
    rw [if_neg (not_not_intro version), if_pos wide, represents.rows]
    rfl
  | revised version changed fits =>
    have other : rule ≠ entry.rule := fun same => changed (congrArg Columns.ofRule same.symm)
    rw [Entry.record_version] at version
    rw [if_neg (not_not_intro version), if_neg (not_not_intro fits)]
    show _ = (_, (catalog.put number (entry.revise rule)).records)
    rw [Catalog.records_put first place, ← Entry.record_revise other, put, represents.rows]
    rfl
  | overtaken _ _ _ former => exact absurd rfl former

/-- **An edit of a row is the edit of its entry.** -/
theorem edit_eq (represents : store.Represents catalog) (current : store.IsCurrent session)
    (id expected : Value) {ruleOf : Record → Except Error Rule}
    {ruleOf' : Entry → Except Error Rule}
    (same : ∀ entry number, ruleOf (entry.record number) = ruleOf' entry) {answer : Answer Record}
    (edit : answer = (store.load session id).andThen fun read store =>
      (store.always (ruleOf read)).andThen fun rule store =>
        store.save session read expected rule) :
    (answer.1, answer.2.rows) = catalog.outcome (catalog.edited id expected ruleOf') := by
  have asked := represents.lookup_eq current id
  unfold Catalog.edited
  cases found : catalog.find id with
  | error cause =>
    have refreshes := load_refreshes store session id
    rw [found, ← load_eq_lookup] at asked
    cases loaded : store.load session id with
    | mk result between =>
      rw [loaded] at asked refreshes edit
      simp only [] at asked
      rw [edit, asked]
      exact congrArg (Prod.mk _) (refreshes.rows.trans represents.rows)
  | ok found' =>
    obtain ⟨number, entry⟩ := found'
    obtain ⟨_, named, narrow, there⟩ := lookup_eq_ok.mp found
    obtain ⟨rfl, _⟩ := Catalog.entry?_eq_some.mp there
    have stored : store.row? (entry.record number).id = some (entry.record number) :=
      represents.row?_eq there
    rw [edit_outcome represents.sound stored ((current.seen_eq number).trans stored) named narrow
      expected ruleOf edit, same]
    simp only [bind, Except.bind]
    cases ruleOf' entry with
    | error cause => exact congrArg (Prod.mk _) represents.rows
    | ok rule =>
      simp only [represents.saved_eq there]
      cases entry.edit number expected rule <;> rfl

/-- **The creation of a draft is the creation of an entry.** -/
theorem create_eq (represents : store.Represents catalog) (session : Text) (name : Value)
    (draft : Draft) :
    ((store.create session name draft).1, (store.create session name draft).2.rows) =
      catalog.outcome ((Entry.ofDraft name draft).map (Prod.mk (catalog.length + 1))) := by
  have next : store.nextId = catalog.length + 1 := by
    rw [nextId, represents.rows, Catalog.length_records]
  rw [create_outcome represents.sound.numbered session name draft, represents.rows, next]
  unfold Entry.ofDraft
  cases draft.toRule with
  | error cause => rfl
  | ok rule =>
    cases storedName name with
    | error cause => rfl
    | ok stored =>
      simp only [bind, Except.bind, pure, Except.pure]
      by_cases fits : Fits64 rule.interval
      · rw [if_pos fits, if_pos fits]
        show _ = (_, (catalog.put (catalog.length + 1) _).records)
        rw [Catalog.records_put_new]
        rfl
      · rw [if_neg fits, if_neg fits]
        rfl

end Represents

/-- A record is switched to another kind as the rule of its entry. -/
theorem switchedRule_record (entry : Entry) (id : Int) (kind anchor : Value) :
    switchedRule (entry.record id) kind anchor =
      (do (← (Draft.ofRule entry.rule).switchKind kind anchor).toRule) := by
  unfold switchedRule Record.toDraft
  rw [Entry.record_columns, Columns.toDraft_ofRule]
  rfl

/-! ### Steps -/

variable {catalog : Catalog}

/-- An operation on a record that comes to a change of the catalogue commits that change. -/
theorem step_of_outcome {step : Step} {answer : Answer Record}
    {change : Except Error (Int × Entry)}
    (attempted : store.attempt session step =
      answer.andThen fun record store => (.ok (.record record), store))
    (outcome : (answer.1, answer.2.rows) = catalog.outcome change) :
    (store.step session step).1 = (catalog.commit change).1 ∧
      (store.step session step).2.rows = (catalog.commit change).2.records := by
  obtain ⟨stepped, steppedRows⟩ := step_of_record attempted
  obtain ⟨answered, rows⟩ := Prod.mk.inj outcome
  rw [stepped, steppedRows, answered, rows]
  cases change <;> exact ⟨rfl, rfl⟩

/-- **A step of a session that is current is that of the catalogue.** -/
theorem step_refines (represents : store.Represents catalog) (current : store.IsCurrent session)
    (step : Step) :
    (store.step session step).1 = (catalog.step step).1 ∧
      (store.step session step).2.rows = (catalog.step step).2.records := by
  have effect := step_effect represents.sound session step
  cases step with
  | create name entries =>
    rw [Catalog.step, Catalog.filled]
    cases filled : Form.draft.fill entries with
    | error cause =>
      rw [step_fst, step_rows, attempt, Store.filled, filled]
      exact ⟨rfl, represents.rows⟩
    | ok draft =>
      have change : (do return ((catalog.length : Int) + 1, ← Entry.ofDraft name draft) :
          Except Error (Int × Entry)) =
          (Entry.ofDraft name draft).map (Prod.mk ((catalog.length : Int) + 1)) := by
        cases Entry.ofDraft name draft <;> rfl
      exact step_of_outcome (attempt_create filled store session name)
        ((represents.create_eq session name draft).trans (congrArg _ change.symm))
  | get id =>
    refine ⟨?_, (effect.rows_eq (fun _ _ same => by cases same)
      fun _ _ _ isEdit => by cases isEdit).trans represents.rows⟩
    rw [step_get, represents.lookup_eq current, Catalog.step]
    cases catalog.find id <;> rfl
  | list =>
    refine ⟨?_, (effect.rows_eq (fun _ _ same => by cases same)
      fun _ _ _ isEdit => by cases isEdit).trans represents.rows⟩
    rw [step_fst, attempt, Answer.andThen_fst, represents.list_eq current]
    rfl
  | update id expected entries =>
    rw [Catalog.step, Catalog.filled]
    cases filled : Form.draft.fill entries with
    | error cause =>
      rw [step_fst, step_rows, attempt, Store.filled, filled]
      exact ⟨rfl, represents.rows⟩
    | ok draft =>
      have outcome : ((store.update session id expected draft).1,
          (store.update session id expected draft).2.rows) =
          catalog.outcome (catalog.edited id expected fun _ => draft.toRule) :=
        represents.edit_eq current id expected (fun _ _ => rfl) rfl
      exact step_of_outcome (attempt_update filled store session id expected) outcome
  | switchKind id expected kind anchor =>
    exact step_of_outcome rfl (represents.edit_eq current id expected
      (fun entry number => switchedRule_record entry number kind anchor) rfl)
  | rule id =>
    refine ⟨?_, (effect.rows_eq (fun _ _ same => by cases same)
      fun _ _ _ isEdit => by cases isEdit).trans represents.rows⟩
    rw [step_rule, represents.lookup_eq current, Catalog.step]
    cases catalog.find id with
    | error cause => rfl
    | ok found =>
      show ((found.2.record found.1).toRule.bind _) = _
      rw [Record.toRule, Entry.record_columns, Columns.toRule_ofRule]
      rfl
  | dates id bound =>
    refine ⟨?_, (effect.rows_eq (fun _ _ same => by cases same)
      fun _ _ _ isEdit => by cases isEdit).trans represents.rows⟩
    rw [step_dates, represents.lookup_eq current, Catalog.step]
    cases catalog.find id with
    | error cause => rfl
    | ok found =>
      show ((found.2.record found.1).toRule.bind _) = _
      rw [Record.toRule, Entry.record_columns, Columns.toRule_ofRule]
      rfl
  | expire => exact ⟨rfl, represents.rows⟩

/-- A step of a session that is current leads from catalogue to catalogue. -/
theorem Represents.step (represents : store.Represents catalog)
    (current : store.IsCurrent session) (step : Step) :
    (store.step session step).2.Represents (catalog.step step).2 where
  sound := (step_effect represents.sound session step).sound represents.sound
  holds := (step_effect represents.sound session step).holdsRules represents.holds
  rows := (step_refines represents current step).2

/-! ### Runs -/

/-- Sessions that do not come back once another one has taken a step. -/
def Serial : List Text → Prop
  | [] => True
  | session :: others => (session ∈ others → others.head? = some session) ∧ Serial others

/-- Only the session that comes next remembers anything, and it is current. -/
def IsReady (store : Store) (sessions : List Text) : Prop :=
  ∀ session ∈ sessions, ∀ (id : Int) (copy : Record), store.remembered session id = some copy →
    sessions.head? = some session ∧ store.row? id = some copy

/-- **A run of sessions that are not interrupted is that of the catalogue.** -/
theorem run_refines {steps : List (Text × Step)} (represents : store.Represents catalog)
    (serial : Serial (steps.map Prod.fst)) (ready : store.IsReady (steps.map Prod.fst)) :
    (store.run steps).1 = (catalog.run (steps.map Prod.snd)).1 ∧
      (store.run steps).2.rows = (catalog.run (steps.map Prod.snd)).2.records := by
  induction steps generalizing store catalog with
  | nil => exact ⟨rfl, represents.rows⟩
  | cons head steps ih =>
    obtain ⟨session, step⟩ := head
    obtain ⟨comesBack, serial⟩ := serial
    have current : store.IsCurrent session := fun id copy known =>
      (ready session (List.mem_cons_self ..) id copy known).2
    have effect := step_effect represents.sound session step
    have ready' : (store.step session step).2.IsReady (steps.map Prod.fst) := by
      intro other later id copy known
      by_cases own : other = session
      · subst own
        exact ⟨comesBack later, effect.current current id copy known⟩
      -- Another session that remembers something would have had to come first.
      · rw [effect.others_eq own] at known
        have next := (ready other (List.mem_cons_of_mem session later) id copy known).1
        exact absurd (Option.some_inj.mp next).symm own
    obtain ⟨answers, rows⟩ := ih (represents.step current step) serial ready'
    have answer := (step_refines represents current step).1
    exact ⟨congr (congrArg List.cons answer) answers, rows⟩

theorem serial_of_nodup {sessions : List Text} (distinct : sessions.Nodup) : Serial sessions := by
  induction sessions with
  | nil => trivial
  | cons session others ih =>
    obtain ⟨new, distinct⟩ := List.nodup_cons.mp distinct
    exact ⟨fun again => absurd again new, ih distinct⟩

theorem serial_of_same {sessions : List Text} {session : Text}
    (same : ∀ other ∈ sessions, other = session) : Serial sessions := by
  induction sessions with
  | nil => trivial
  | cons first others ih =>
    refine ⟨fun again => ?_, ih fun other later => same other (List.mem_cons_of_mem first later)⟩
    cases others with
    | nil => cases again
    | cons second others =>
      have here := same first (List.mem_cons_self ..)
      have there := same second (List.mem_cons_of_mem first (List.mem_cons_self ..))
      rw [List.head?_cons, here, there]

theorem represents_empty : empty.Represents [] where
  sound := sound_empty
  holds _ inside := by cases inside
  rows := rfl

/-- **Whoever is not interrupted works on a catalogue.** Steps each in a session of its own, or all
in one session, are answered as the catalogue of the drafts answers them and leave its records in
the rows; and a step that fails leaves the rows as they were. -/
theorem run_catalog (steps : List (Text × Step))
    (alone : (steps.map Prod.fst).Nodup ∨ ∃ session, ∀ taken ∈ steps, taken.1 = session) :
    (empty.run steps).1 = (Catalog.run [] (steps.map Prod.snd)).1 ∧
      (empty.run steps).2.rows = (Catalog.run [] (steps.map Prod.snd)).2.records ∧
      ∀ index cause, (empty.run steps).1[index]? = some (.error cause) →
        (empty.reached steps (index + 1)).rows = (empty.reached steps index).rows := by
  have serial : Serial (steps.map Prod.fst) := by
    rcases alone with distinct | ⟨session, same⟩
    · exact serial_of_nodup distinct
    · refine @serial_of_same _ session fun other inside => ?_
      obtain ⟨taken, member, rfl⟩ := List.mem_map.mp inside
      exact same taken member
  have ready : empty.IsReady (steps.map Prod.fst) := fun _ _ _ _ known => by cases known
  obtain ⟨answers, rows⟩ := run_refines represents_empty serial ready
  refine ⟨answers, rows, fun index cause failed => ?_⟩
  rw [getElem?_run] at failed
  obtain ⟨⟨session, step⟩, taken, answered⟩ := Option.map_eq_some_iff.mp failed
  have effect := step_effect (sound_reached sound_empty steps index) session step
  simp only [] at answered
  rw [answered] at effect
  rw [reached_succ taken]
  exact effect.rows_of_error

/-- A draft is created and edited, the edit is sent once more, and the rule is asked for. -/
def resent : List Step :=
  creation.map Prod.snd ++ ([edition, edition, .rule (.int 1)] : List Step)

/-- The same in four sessions. -/
def resentApart : List (Text × Step) :=
  List.zip (["first", "second", "third", "fourth"] : List Text) resent

/-- The edit raises the version once, and is refused when it comes again. -/
theorem resent_catalog :
    (empty.run resentApart).1 = (Catalog.run [] resent).1 ∧
      (empty.run resentApart).2.rows = (Catalog.run [] resent).2.records ∧
      (empty.run (resent.map (Prod.mk "first"))).1 = (Catalog.run [] resent).1 ∧
      (empty.reached resentApart 3).rows = (empty.reached resentApart 2).rows ∧
      (Catalog.run [] resent).2.map Entry.version = [2] ∧
      (Catalog.run [] resent).1.map Except.isOk = [true, true, false, true] := by
  obtain ⟨answers, rows, kept⟩ := run_catalog resentApart (Or.inl (by decide))
  obtain ⟨together, _⟩ := run_catalog (resent.map (Prod.mk "first")) (Or.inr ⟨"first", by decide⟩)
  have refused : (Catalog.run [] resent).1[2]?.map Except.isOk = some false := by decide +kernel
  obtain ⟨answer, third, failed⟩ := Option.map_eq_some_iff.mp refused
  cases answer with
  | ok outcome => cases failed
  | error cause =>
    refine ⟨answers, rows, together, kept 2 cause ?_, by decide +kernel, by decide +kernel⟩
    rw [answers]
    exact third

end Store

end Recurrence
