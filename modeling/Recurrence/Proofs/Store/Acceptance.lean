/-
**Accepted edits and stale versions.**

An edit that is accepted is in force: the row was at the version that the edit expects, and holds
the rule that the edit asks for. An edit that expects another version is refused. There is one
exception to both. An edit that asks for the very rule that its session remembers writes nothing, so
the version that is stored is never looked at. If the session remembers an earlier version, and
expects that one, the edit is accepted and answered with the row as others have changed it since.
A version with too many digits to be shown is refused as such, and not for being another one.

* `Value.equivalent_int_unique`: one version only is the expected one;
* `Store.Overlooks`: the exception;
* `Store.accepted_or_overlooked`: every other accepted update is in force, and every other update
  that expects a version that is not stored is refused;
* `Store.repetition_overlooked`: the exception comes up.
-/
import Recurrence.Proofs.Rule.Draft
import Recurrence.Proofs.Store.Answers
import Recurrence.Proofs.Store.Versions

namespace Recurrence

/-! ### Expected versions -/

theorem power_pos (exponent : Int) : 0 < (power 2 exponent : Int) := by
  have positive : 0 < Nat.pow 2 exponent.toNat := Nat.pow_pos (by decide)
  unfold power
  omega

theorem Number.equal_int_finite {number : Int} {negative : Bool} {significand : Nat}
    {exponent : Int}
    (same : equal (int number) (double (.finite negative significand exponent)) = true) :
    number * power 2 (-exponent) = Double.scaled negative significand * power 2 exponent := by
  simp only [equal, isNotANumber, Double.isNotANumber, less, Double.intLess, Double.lessThanInt,
    Double.scaledLess, whole?, Option.getD_some, Bool.not_false, Bool.true_and, Bool.and_eq_true,
    Bool.not_eq_true', decide_eq_false_iff_not, Int.sub_zero, Int.zero_sub] at same
  omega

theorem Number.equal_int_whole {number : Int} {other : Number} {whole : Int}
    (is : other.whole? = some whole) (same : equal (int number) other = true) : number = whole := by
  have below : less (int number) other = decide (number < whole) := by
    cases other <;> cases is <;> rfl
  have above : less other (int number) = decide (whole < number) := by
    cases other <;> cases is <;> rfl
  simp only [equal, below, above, Bool.and_eq_true, Bool.not_eq_true', decide_eq_false_iff_not]
    at same
  omega

/-- One integer only has the value of a number. -/
theorem Number.equal_int_unique {first second : Int} {number : Number}
    (same : equal (int first) number = true) (same' : equal (int second) number = true) :
    first = second := by
  cases number with
  | int value => exact (equal_int_whole rfl same).trans (equal_int_whole rfl same').symm
  | truth value => exact (equal_int_whole rfl same).trans (equal_int_whole rfl same').symm
  | double value =>
    cases value with
    | finite negative significand exponent =>
      have equation := (equal_int_finite same).trans (equal_int_finite same').symm
      exact Int.eq_of_mul_eq_mul_right (Int.ne_of_gt (power_pos (-exponent))) equation
    | infinite negative => cases negative <;> cases same
    | notANumber => cases same

/-- **One version only is the expected one.** -/
theorem Value.equivalent_int_unique {first second : Int} {expected : Value}
    (same : (int first).equivalent expected = true)
    (same' : (int second).equivalent expected = true) : first = second := by
  have value (version : Int) (same : (int version).equivalent expected = true) :
      ∃ number, expected.number? = some number ∧ Number.equal (.int version) number = true := by
    cases expected with
    | int _ | bool _ | double _ => exact ⟨_, rfl, same⟩
    | null | text _ | list _ | object _ | date _ | dateTime _ => cases same
  obtain ⟨number, is, equal⟩ := value first same
  obtain ⟨number', is', equal'⟩ := value second same'
  rw [is, Option.some_inj] at is'
  rw [← is'] at equal'
  exact Number.equal_int_unique equal equal'

/-! ### Updates -/

/-- The edit was expected at another version than is stored. -/
def StoreError.IsConflict : StoreError → Prop
  | staleVersion .. | modifiedConcurrently _ => True
  | notFound _ | numberTooWide | notEncodable .. => False

namespace Store

/-- A session remembers an earlier version of a row, expects that version, and asks for the rule
that it remembers. -/
def Overlooks (store : Store) (session : Text) (row : Record) (expected : Value) (rule : Rule) :
    Prop :=
  ∃ copy, store.remembered session row.id = some copy ∧ copy.version < row.version ∧
    copy.columns = .ofRule rule ∧ (Value.int copy.version).equivalent expected = true

/-- A step puts a rule in force: the row was at the expected version, and is the record answered
with after, which holds the rule. -/
structure Enforces (store : Store) (session : Text) (step : Step) (row : Record)
    (expected : Value) (rule : Rule) (record : Record) : Prop where
  current : (Value.int row.version).equivalent expected = true
  stored : (store.step session step).2.row? row.id = some record
  holds : record.columns = .ofRule rule

variable {store : Store} {session : Text}

/-- An expected version that is overlooked is not the one stored. -/
theorem Overlooks.stale {row : Record} {expected : Value} {rule : Rule}
    (overlooks : store.Overlooks session row expected rule) :
    (Value.int row.version).equivalent expected = false := by
  obtain ⟨copy, _, earlier, _, same⟩ := overlooks
  rw [Bool.eq_false_iff]
  intro current
  exact Int.ne_of_lt earlier (Value.equivalent_int_unique same current)

theorem Overlooks.of_seen {row read : Record} {expected : Value} {rule : Rule}
    (overlooks : store.Overlooks session row expected rule)
    (shown : store.seen session row.id = some read) :
    read.columns = .ofRule rule ∧ (Value.int read.version).equivalent expected = true := by
  obtain ⟨copy, known, _, same, version⟩ := overlooks
  rw [seen_of_remembered known, Option.some_inj] at shown
  subst shown
  exact ⟨same, version⟩

/-- What a session is shown is the row, or an earlier version that it remembers. -/
theorem Sound.eq_row_or_remembered (sound : store.Sound) {read row : Record}
    (stored : store.row? row.id = some row) (shown : store.seen session row.id = some read) :
    read = row ∨ store.remembered session row.id = some read ∧ read.version < row.version := by
  obtain ⟨_, stored', before⟩ := sound.precedes_of_seen shown
  rw [stored, Option.some_inj] at stored'
  subst stored'
  by_cases current : read = row
  · exact Or.inl current
  · cases known : store.remembered session row.id with
    | none =>
      rw [seen_of_unknown known, stored] at shown
      exact absurd (Option.some_inj.mp shown).symm current
    | some copy =>
      rw [seen_of_remembered known] at shown
      have order := before.version
      have different : read.version ≠ row.version := fun equal => current (before.same equal)
      exact Or.inr ⟨shown, by omega⟩

/-- An update that is accepted is one of a row that the session is shown, by a valid draft. -/
theorem Sound.update_eq_ok (sound : store.Sound) {id expected : Value}
    {entries : List (Text × Value)} {record : Record}
    (accepted : (store.step session (.update id expected entries)).1 = .ok (.record record)) :
    ∃ row read draft rule, store.row? row.id = some row ∧
      store.seen session row.id = some read ∧ number? id = some row.id ∧ Fits64 row.id ∧
      Form.draft.fill entries = .ok draft ∧ draft.toRule = .ok rule := by
  cases filled : Form.draft.fill entries with
  | error cause =>
    rw [step_fst, attempt, Store.filled, filled] at accepted
    cases accepted
  | ok draft =>
    rw [(step_of_record (attempt_update filled store session id expected)).1] at accepted
    cases updated : store.update session id expected draft with
    | mk answer after =>
      rw [updated] at accepted
      cases answer with
      | error cause => cases accepted
      | ok result =>
        obtain ⟨read, between, loaded, rest⟩ := Answer.andThen_eq_ok updated
        obtain ⟨rule, _, valid, _⟩ := Answer.andThen_eq_ok rest
        have found := congrArg Prod.fst loaded
        rw [load_eq_lookup, lookup_eq_ok] at found
        obtain ⟨number, named, narrow, shown⟩ := found
        obtain ⟨row, stored, _⟩ := sound.precedes_of_seen shown
        have place := id_of_row? stored
        subst place
        exact ⟨row, read, draft, rule, stored, shown, named, narrow, rfl, congrArg Prod.fst valid⟩

/-- An expected version that is not the current one is refused as such, unless it cannot be
shown. -/
theorem refuses_stale {result : Except Error Outcome} {id current : Int} {expected : Value}
    (stale : result = .error (.stale id current expected)) :
    (∃ cause, result = .error (.store cause) ∧ cause.IsConflict) ∨
      (expected.isWritable = false ∧ result = .error (.numeral .unwritable)) := by
  rcases Error.stale_cases id current expected with ⟨_, same⟩ | ⟨unwritable, same⟩
  · rw [same] at stale
    exact .inl ⟨_, stale, trivial⟩
  · rw [same] at stale
    exact .inr ⟨unwritable, stale⟩

/-- **An update of a row by a valid draft is in force, or it is overlooked, or it is refused.** -/
theorem Sound.update_outcome (sound : store.Sound) (session : Text) {row : Record}
    (stored : store.row? row.id = some row) {id expected : Value} {entries : List (Text × Value)}
    {rule : Rule} (narrow : Fits64 row.id)
    (isEdit : Step.Edits row (.update id expected entries) expected rule) :
    let answer := store.step session (.update id expected entries)
    (∃ record, answer.1 = .ok (.record record) ∧
      store.Enforces session (.update id expected entries) row expected rule record) ∨
    (store.Overlooks session row expected rule ∧ answer.1 = .ok (.record row) ∧
      answer.2.rows = store.rows) ∨
    (¬ store.Overlooks session row expected rule ∧ answer.2.rows = store.rows ∧
      ((∃ cause, answer.1 = .error (.store cause) ∧ (cause.IsConflict ∨ ¬ Fits64 rule.interval)) ∨
        (expected.isWritable = false ∧ answer.1 = .error (.numeral .unwritable)))) := by
  cases isEdit with
  | @update _ _ _ draft _ named filled valid =>
    obtain ⟨read, shown⟩ : ∃ read, store.seen session row.id = some read := by
      unfold seen
      rw [stored]
      cases store.remembered session row.id with
      | none => exact ⟨row, rfl⟩
      | some copy => exact ⟨copy, rfl⟩
    have missed (overlooks : store.Overlooks session row expected rule) := overlooks.of_seen shown
    have settled {result : Except Error Record} {rows : List Record}
        (outcome : ((store.update session id expected draft).1,
          (store.update session id expected draft).2.rows) = (result, rows)) :
        (store.step session (.update id expected entries)).1 = result.map .record ∧
          (store.step session (.update id expected entries)).2.rows = rows := by
      obtain ⟨rfl, rfl⟩ := Prod.mk.inj outcome
      exact step_of_record (attempt_update filled store session id expected)
    have outcome := edit_outcome sound stored shown named narrow expected (fun _ => draft.toRule)
      (rfl : store.update session id expected draft = _)
    simp only [valid] at outcome
    have saving := store.saving row read expected rule
    generalize store.saved row read expected rule = saved at outcome saving
    intro answered
    cases saving with
    | stale version =>
      obtain ⟨answer, rows⟩ := settled outcome
      refine Or.inr (Or.inr ⟨fun overlooks => version (missed overlooks).2, rows, ?_⟩)
      exact (refuses_stale answer).imp_left fun ⟨cause, refused, conflict⟩ =>
        ⟨cause, refused, Or.inl conflict⟩
    | unchanged version same =>
      obtain ⟨answer, rows⟩ := settled outcome
      rcases sound.eq_row_or_remembered stored shown with current | ⟨known, earlier⟩
      · subst current
        refine Or.inl ⟨read, answer, version, ?_, same⟩
        rw [row?, rows]
        exact stored
      · exact Or.inr (Or.inl ⟨⟨read, known, earlier, same, version⟩, answer, rows⟩)
    | wide _ changed wide =>
      obtain ⟨answer, rows⟩ := settled outcome
      exact Or.inr (Or.inr ⟨fun overlooks => changed (missed overlooks).1, rows,
        Or.inl ⟨_, answer, Or.inr wide⟩⟩)
    | revised version _ _ current =>
      subst current
      obtain ⟨answer, rows⟩ := settled outcome
      refine Or.inl ⟨read.revise rule, answer, version, ?_, rfl⟩
      have put := store.row?_put (read.revise rule) read.id
      rw [Record.revise_id, if_pos rfl, stored] at put
      rw [row?, rows]
      exact put
    | overtaken _ changed =>
      obtain ⟨answer, rows⟩ := settled outcome
      exact Or.inr (Or.inr ⟨fun overlooks => changed (missed overlooks).1, rows,
        Or.inl ⟨_, answer, Or.inl trivial⟩⟩)

/-- **An accepted update is in force, unless it is overlooked; an update that expects a version that
is not stored is refused, unless it is overlooked.** After any run an update that is answered with a
record has found the row at the version expected and leaves it as that record, which holds the rule
of the draft; or it has been overlooked, and the record is the row as it was. A version that is not
stored is refused as a conflict, if it can be shown. -/
theorem accepted_or_overlooked (steps : List (Text × Step)) (session : Text)
    (id expected : Value) (entries : List (Text × Value)) :
    let store := (empty.run steps).2
    let step := Step.update id expected entries
    let answer := store.step session step
    (∀ record, answer.1 = .ok (.record record) →
      ∃ row rule, store.row? row.id = some row ∧ step.Edits row expected rule ∧
        (store.Enforces session step row expected rule record ∨
          (store.Overlooks session row expected rule ∧
            (Value.int row.version).equivalent expected = false ∧ record = row ∧
            answer.2.rows = store.rows))) ∧
    ∀ row rule, store.row? row.id = some row → step.Edits row expected rule → Fits64 row.id →
      Fits64 rule.interval → (Value.int row.version).equivalent expected = false →
      answer.2.rows = store.rows ∧
        ((store.Overlooks session row expected rule ∧ answer.1 = .ok (.record row)) ∨
          (¬ store.Overlooks session row expected rule ∧
            ((∃ cause, answer.1 = .error (.store cause) ∧ cause.IsConflict) ∨
              (expected.isWritable = false ∧ answer.1 = .error (.numeral .unwritable))))) := by
  intro store step answer
  have sound : store.Sound := sound_run sound_empty steps
  refine ⟨fun record accepted => ?_, fun row rule stored isEdit narrow fits stale => ?_⟩
  · obtain ⟨row, read, draft, rule, stored, shown, named, narrow, filled, valid⟩ :=
      sound.update_eq_ok accepted
    have isEdit : step.Edits row expected rule := .update named filled valid
    refine ⟨row, rule, stored, isEdit, ?_⟩
    rcases sound.update_outcome session stored narrow isEdit with
      ⟨record', answered, enforces⟩ | ⟨overlooks, answered, rows⟩ |
        ⟨_, _, ⟨cause, refused, _⟩ | ⟨_, refused⟩⟩
    · have same : record' = record := by
        rw [accepted] at answered
        cases answered
        rfl
      rw [← same]
      exact Or.inl enforces
    · have same : row = record := by
        rw [accepted] at answered
        cases answered
        rfl
      exact Or.inr ⟨overlooks, overlooks.stale, same.symm, rows⟩
    all_goals
      rw [accepted] at refused
      cases refused
  · rcases sound.update_outcome session stored narrow isEdit with
      ⟨record, _, enforces⟩ | ⟨overlooks, answered, rows⟩ |
        ⟨missed, rows, ⟨cause, refused, conflict | wide⟩ | unshown⟩
    · rw [enforces.current] at stale
      cases stale
    · exact ⟨rows, Or.inl ⟨overlooks, answered⟩⟩
    · exact ⟨rows, Or.inr ⟨missed, Or.inl ⟨cause, refused, conflict⟩⟩⟩
    · exact absurd fits wide
    · exact ⟨rows, Or.inr ⟨missed, Or.inr unshown⟩⟩

/-! ### The exception comes up -/

theorem everyDay_interval : (1 : Int) ≤ 1 := Int.le_refl 1

theorem everySecondDay_interval : (1 : Int) ≤ 2 := by decide

/-- The rule of `creation`. -/
def everyDay : Rule where
  pattern := .daily
  interval := 1
  startDate := creationDay
  endDate := none
  one_le_interval := everyDay_interval
  start_le_end := nofun

/-- The rule of `edition`. -/
def everySecondDay : Rule :=
  { everyDay with interval := 2, one_le_interval := everySecondDay_interval }

/-- The row that `creation` and then `edition` lead to. -/
def editedRow : Record := ((Record.blank 1 "Backup").write everyDay).revise everySecondDay

/-- A session reads a draft that another one has made and then edits. -/
def race : List (Text × Step) :=
  creation ++ ([("second", .get (.int 1)), ("first", edition)] : List (Text × Step))

/-- The session that has read asks for the rule that it remembers, at the version that it
remembers. -/
def repetition : Step :=
  .update (.int 1) (.int 1)
    [("recurrence_type", .text "daily"), ("start_date", .date creationDay)]

/-- The update is accepted though the row is at version 2, and the row does not hold its rule. -/
theorem repetition_overlooked :
    (empty.run race).2.row? 1 = some editedRow ∧ repetition.Edits editedRow (.int 1) everyDay ∧
      (Value.int editedRow.version).equivalent (.int 1) = false ∧
      ((empty.run race).2.step "second" repetition).1 = .ok (.record editedRow) ∧
      ((empty.run race).2.step "second" repetition).2.row? 1 = some editedRow ∧
      editedRow.columns ≠ .ofRule everyDay := by
  refine ⟨by decide +kernel, .update rfl rfl rfl, by decide, ?_, by decide +kernel,
    by decide +kernel⟩
  exact eq_ok_of_toOption (by decide +kernel)

/-- The edition is in force after the creation, and the repetition is overlooked after the race. -/
theorem edition_accepted :
    (∃ row rule, (empty.run creation).2.row? row.id = some row ∧
      edition.Edits row (.int 1) rule ∧
      (empty.run creation).2.Enforces "second" edition row (.int 1) rule editedRow) ∧
    (empty.run race).2.Overlooks "second" editedRow (.int 1) everyDay := by
  have answered : ((empty.run creation).2.step "second" edition).1 = .ok (.record editedRow) :=
    eq_ok_of_toOption (by decide +kernel)
  have repeated : ((empty.run race).2.step "second" repetition).1 = .ok (.record editedRow) :=
    eq_ok_of_toOption (by decide +kernel)
  constructor
  · obtain ⟨row, rule, stored, isEdit, enforces | ⟨⟨copy, known, _⟩, _⟩⟩ :=
      (accepted_or_overlooked creation "second" (.int 1) (.int 1) _).1 editedRow answered
    · exact ⟨row, rule, stored, isEdit, enforces⟩
    · have unknown : (empty.run creation).2.remembered "second" row.id = none := rfl
      rw [unknown] at known
      cases known
  · have isEdit : repetition.Edits editedRow (.int 1) everyDay := .update rfl rfl rfl
    obtain ⟨_, ⟨overlooks, _⟩ | ⟨_, ⟨cause, refused, _⟩ | ⟨_, refused⟩⟩⟩ :=
      (accepted_or_overlooked race "second" (.int 1) (.int 1) _).2 editedRow everyDay
        (by decide +kernel) isEdit (by decide) (by decide) (by decide)
    · exact overlooks
    all_goals
      have both := repeated.symm.trans refused
      cases both

end Store

end Recurrence
