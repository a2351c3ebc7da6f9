/-
**Stored drafts are valid and in one form.**

Only validated rules are written, and always into all columns. So each row holds a rule, which is
read back without being refused, and every column holds what that rule makes of it: what belongs to
other kinds is empty, the weekdays are listed in increasing order, and the checks that the table
makes of its rows are met. What a session remembers has been a row, so it is no different.

* `Record.Holds`: a record is made of a rule that can be stored;
* `Record.Holds.isCanonical`, `Record.Holds.passesChecks`: what follows for its columns;
* `Store.holds_of_mem_rows`, `Store.holds_of_seen`: rows and copies are so during every run;
* `Store.run_ids`: drafts are numbered in the order in which they are created;
* `Store.rule_of_stored`, `Store.dates_of_stored`: a stored draft has a rule.
-/
import Recurrence.Proofs.Store.Answers
import Recurrence.Proofs.Store.Encoding
import Recurrence.Proofs.Store.History

namespace Recurrence

/-! ### Records that hold a rule -/

/-- The columns of a record hold a rule that can be stored. -/
structure Record.Holds (record : Record) (rule : Rule) : Prop where
  columns : record.columns = .ofRule rule
  fits : Fits64 rule.interval
  version : 1 ≤ record.version

/-- What a column holds. -/
def Columns.get (columns : Columns) : Field → Value
  | .recurrenceType => columns.recurrenceType
  | .startDate => columns.startDate
  | .interval => columns.interval
  | .endDate => columns.endDate
  | .daysOfWeek => columns.daysOfWeek
  | .monthDay => columns.monthDay
  | .monthWeek => columns.monthWeek
  | .monthWeekDay => columns.monthWeekDay

/-- Stored weekdays: nothing, or increasing numbers from 0 to 6 with commas between them. -/
inductive WeekdayText.IsStored : Value → Prop
  | nothing : IsStored .null
  | listed (days : List Int) (nonempty : days ≠ []) (increasing : days.Pairwise (· < ·))
    (range : ∀ day ∈ days, 0 ≤ day ∧ day ≤ 6) :
    IsStored (.text (.join "," (days.map fun day => toString day)))

/-- A record has the one form in which a rule is stored. -/
structure Record.IsCanonical (record : Record) (rule : Rule) : Prop where
  read : record.toRule = .ok rule
  rewritten : record.write rule = record
  kind : record.columns.recurrenceType = .text rule.kind.name
  others : ∀ kind : Kind, kind ≠ rule.kind → ∀ field ∈ kind.ownFields,
    record.columns.get field = .null
  weekdays : WeekdayText.IsStored record.columns.daysOfWeek
  interval : ∃ interval, record.columns.interval = .int interval ∧ 1 ≤ interval
  dates : ∃ start, record.columns.startDate = .date start ∧
    (record.columns.endDate = .null ∨
      ∃ last, record.columns.endDate = .date last ∧ start ≤ last)
  version : 1 ≤ record.version

/-- The checks that the table makes of its rows: the kind is one of five, and the interval and the
version are at least one. -/
structure Record.PassesChecks (record : Record) : Prop where
  kind : record.columns.recurrenceType ∈ Kind.all.map fun kind => Value.text kind.name
  interval : record.columns.interval.compare .atLeast (.int 1) = .ok true
  version : 1 ≤ record.version

theorem WeekdayText.isStored_format (pattern : Pattern) :
    IsStored (.ofOption .text (format pattern.weekdayNumbers)) := by
  cases pattern with
  | weekly weekdays =>
    have nonempty : (Pattern.weekly weekdays).weekdayNumbers ≠ [] := by
      intro empty
      exact weekdays.nonempty (List.map_eq_nil_iff.mp empty)
    have written : format (Pattern.weekly weekdays).weekdayNumbers =
        some (.join "," ((Pattern.weekly weekdays).weekdayNumbers.map fun day => toString day)) := by
      unfold format
      rw [if_neg (by simpa using nonempty)]
    rw [written]
    refine .listed _ nonempty ?_ fun day member => ?_
    · exact List.pairwise_map.mpr (weekdays.increasing.imp fun less => Int.ofNat_lt.mpr less)
    · obtain ⟨weekday, _, rfl⟩ := List.mem_map.mp member
      omega
  | daily | monthlyByDay _ | monthlyByWeekday _ _ | yearly => exact .nothing

theorem Columns.get_ofRule_of_ne {rule : Rule} {kind : Kind} (other : kind ≠ rule.kind)
    {field : Field} (own : field ∈ kind.ownFields) : (ofRule rule).get field = .null := by
  obtain ⟨pattern, interval, startDate, endDate, one_le, ordered⟩ := rule
  cases kind with
  | daily | yearly => cases own
  | weekly =>
    obtain rfl := List.mem_singleton.mp own
    cases pattern with
    | weekly _ => exact absurd rfl other
    | daily | monthlyByDay _ | monthlyByWeekday _ _ | yearly => rfl
  | monthlyByDay =>
    obtain rfl := List.mem_singleton.mp own
    cases pattern with
    | monthlyByDay _ => exact absurd rfl other
    | daily | weekly _ | monthlyByWeekday _ _ | yearly => rfl
  | monthlyByWeekday =>
    have either : field = .monthWeek ∨ field = .monthWeekDay := by
      simpa [Kind.ownFields] using own
    cases pattern with
    | monthlyByWeekday _ _ => exact absurd rfl other
    | daily | weekly _ | monthlyByDay _ | yearly => rcases either with rfl | rfl <;> rfl

theorem Value.compare_atLeast_int (first second : Int) :
    compare .atLeast (int first) (int second) = .ok (decide (second ≤ first)) := by
  have same : Number.equal (.int first) (.int second) = decide (first = second) := by
    rw [Bool.eq_iff_iff]
    simp only [Number.equal, Number.isNotANumber, Number.less_int, Bool.not_false, Bool.true_and,
      Bool.and_eq_true, Bool.not_eq_true', decide_eq_false_iff_not, decide_eq_true_eq]
    omega
  have either : (decide (second < first) || decide (first = second)) =
      decide (second ≤ first) := by
    rw [Bool.eq_iff_iff]
    simp only [Bool.or_eq_true, decide_eq_true_eq]
    omega
  simp only [compare, number?, Comparison.holds, Number.less_int, same, either]

namespace Record.Holds

variable {record : Record} {rule : Rule}

theorem toRule (holds : record.Holds rule) : record.toRule = .ok rule := by
  rw [Record.toRule, holds.columns, Columns.toRule_ofRule]

/-- **A record that holds a rule has the one form in which it is stored.** -/
theorem isCanonical (holds : record.Holds rule) : record.IsCanonical rule where
  read := holds.toRule
  rewritten := Record.write_eq_iff.mpr holds.columns
  kind := by
    rw [holds.columns]
    exact Draft.withPattern_recurrenceType _ _
  others kind other field own := by
    rw [holds.columns]
    exact Columns.get_ofRule_of_ne other own
  weekdays := by
    rw [holds.columns]
    exact WeekdayText.isStored_format rule.pattern
  interval := by
    rw [holds.columns]
    exact ⟨rule.interval, Draft.withPattern_interval _ _, rule.one_le_interval⟩
  dates := by
    rw [holds.columns]
    refine ⟨rule.startDate, Draft.withPattern_startDate _ _, ?_⟩
    have ended : (Columns.ofRule rule).endDate = .ofOption .date rule.endDate :=
      Draft.withPattern_endDate _ _
    rw [ended]
    cases last : rule.endDate with
    | none => exact Or.inl rfl
    | some last' => exact Or.inr ⟨last', rfl, rule.start_le_end last' last⟩
  version := holds.version

/-- **A record that holds a rule passes the checks of the table.** -/
theorem passesChecks (holds : record.Holds rule) : record.PassesChecks where
  kind := by
    rw [holds.isCanonical.kind]
    refine List.mem_map_of_mem ?_
    cases rule.kind <;> decide
  interval := by
    obtain ⟨interval, stored, positive⟩ := holds.isCanonical.interval
    rw [stored]
    rw [Value.compare_atLeast_int, decide_eq_true positive]
  version := holds.version

end Record.Holds

/-- The number of the draft that a step creates. -/
def Step.created : Step → Except Error Outcome → List Int
  | .create .., .ok (.record record) => [record.id]
  | _, _ => []

namespace Store

variable {store : Store} {steps : List (Text × Step)}

/-! ### Rows and copies -/

/-- Every row holds a rule. -/
def HoldsRules (store : Store) : Prop := ∀ row ∈ store.rows, ∃ rule, row.Holds rule

/-- **Every step keeps rules in the rows.** -/
theorem Effect.holdsRules {session : Text} {step : Step} {answer : Except Error Outcome}
    {after : Store} (effect : Effect store session step answer after) (holds : store.HoldsRules) :
    after.HoldsRules := by
  intro row inside
  cases effect with
  | reads refreshes =>
    rw [refreshes.rows] at inside
    exact holds row inside
  | @creates _ _ _ rule _ _ _ _ _ fits refreshes =>
    rw [refreshes.rows, insert, List.mem_append, List.mem_singleton] at inside
    rcases inside with former | rfl
    · exact holds row former
    · exact ⟨rule, rfl, fits, Int.le_refl 1⟩
  | @edits _ edited _ rule _ _ revises =>
    rw [revises.refreshes.rows] at inside
    obtain ⟨former, formerly, rfl⟩ := List.mem_map.mp inside
    split
    · obtain ⟨_, before⟩ := holds edited (mem_of_row? revises.stored)
      have order := before.version
      refine ⟨rule, rfl, revises.fits, ?_⟩
      rw [Record.revise_version]
      omega
    · exact holds former formerly

/-- **During every run each row holds a rule.** -/
theorem holds_of_mem_rows {count : Nat} {row : Record}
    (inside : row ∈ (empty.reached steps count).rows) : ∃ rule, row.Holds rule := by
  have begun : (empty.reached steps 0).HoldsRules := by
    intro row inside
    unfold reached at inside
    rw [List.take_zero] at inside
    cases inside
  exact holds_reached HoldsRules
    (fun current sound holds session step => (step_effect sound session step).holdsRules holds)
    sound_empty (Nat.zero_le count) begun row inside

/-- **During every run what a session is shown holds a rule.** -/
theorem holds_of_seen {count : Nat} {session : Text} {id : Int} {record : Record}
    (shown : (empty.reached steps count).seen session id = some record) :
    ∃ rule, record.Holds rule := by
  obtain ⟨_, _, stored⟩ := exists_stored_of_seen shown
  exact holds_of_mem_rows (mem_of_row? stored)

/-! ### Numbers -/

/-- The numbers of the drafts that are created during the steps, in order. -/
def created (store : Store) (steps : List (Text × Step)) : List Int :=
  (List.zipWith (fun taken answer => Step.created taken.2 answer) steps (store.run steps).1).flatten

theorem put_ids (store : Store) (record : Record) :
    (store.put record).rows.map Record.id = store.rows.map Record.id := by
  unfold put
  rw [List.map_map]
  refine List.map_congr_left fun row _ => ?_
  show (if row.id = record.id then record else row).id = row.id
  split
  · exact Eq.symm ‹_›
  · rfl

/-- Only the creation of a draft changes the numbers. -/
theorem Effect.ids_eq {session : Text} {step : Step} {answer : Except Error Outcome}
    {after : Store} (effect : Effect store session step answer after)
    (creates : ∀ name entries, step ≠ .create name entries) :
    after.rows.map Record.id = store.rows.map Record.id := by
  cases effect with
  | reads refreshes => rw [refreshes.rows]
  | creates => exact absurd rfl (creates _ _)
  | edits _ revises => rw [revises.refreshes.rows, put_ids]

/-- **A step appends the number of the draft that it creates.** -/
theorem step_ids (sound : store.Sound) (session : Text) (step : Step) :
    (store.step session step).2.rows.map Record.id =
      store.rows.map Record.id ++ Step.created step (store.step session step).1 := by
  have effect := step_effect sound session step
  cases step with
  | create name entries =>
    cases filled : Form.draft.fill entries with
    | error cause =>
      rw [step_fst, step_rows, attempt, Store.filled, filled]
      exact (List.append_nil _).symm
    | ok draft =>
      obtain ⟨answered, rows⟩ := step_of_record (attempt_create filled store session name)
      have outcome := create_outcome sound.numbered session name draft
      rw [answered, rows]
      split at outcome
      · obtain ⟨refused, kept⟩ := Prod.mk.inj outcome
        rw [refused, kept]
        exact (List.append_nil _).symm
      · split at outcome
        · obtain ⟨made, appended⟩ := Prod.mk.inj outcome
          rw [made, appended, List.map_append]
          rfl
        · obtain ⟨refused, kept⟩ := Prod.mk.inj outcome
          rw [refused, kept]
          exact (List.append_nil _).symm
  | get | list | update | switchKind | rule | dates | expire =>
    rw [effect.ids_eq fun _ _ same => by cases same]
    exact (List.append_nil _).symm

/-- **Drafts are numbered in the order in which they are created.** -/
theorem run_ids (sound : store.Sound) (steps : List (Text × Step)) :
    (store.run steps).2.rows.map Record.id = store.rows.map Record.id ++ store.created steps := by
  induction steps generalizing store with
  | nil => exact (List.append_nil _).symm
  | cons head steps ih =>
    obtain ⟨session, step⟩ := head
    have rest := ih ((step_effect sound session step).sound sound)
    rw [step_ids sound, List.append_assoc] at rest
    exact rest

/-- The numbers of the rows are those from 1 on. -/
theorem Numbered.ids_eq (numbered : store.Numbered) :
    store.rows.map Record.id =
      (List.range store.rows.length).map fun index : Nat => (index : Int) + 1 := by
  refine List.ext_getElem? fun index => ?_
  rw [List.getElem?_map, List.getElem?_map]
  cases found : store.rows[index]? with
  | none =>
    rw [List.getElem?_eq_none (by simpa using List.getElem?_eq_none_iff.mp found)]
    rfl
  | some row =>
    rw [List.getElem?_range (List.getElem?_eq_some_iff.mp found).1, Option.map_some,
      Option.map_some, numbered index row found]

/-! ### Reading rules -/

/-- **A stored draft has a rule.** -/
theorem rule_of_stored {session : Text} {id : Value} {number : Int} {record : Record} {rule : Rule}
    (named : number? id = some number) (narrow : Fits64 number)
    (shown : store.seen session number = some record) (holds : record.Holds rule) :
    (store.step session (.rule id)).1 = .ok (.rule rule) := by
  have found : lookup (store.seen session) id = .ok record :=
    lookup_eq_ok.mpr ⟨number, named, narrow, shown⟩
  rw [step_rule, found]
  show record.toRule.bind _ = _
  rw [holds.toRule]
  rfl

/-- **A stored draft has the dates of its rule.** -/
theorem dates_of_stored {session : Text} {id : Value} {number : Int} {record : Record}
    {rule : Rule} (named : number? id = some number) (narrow : Fits64 number)
    (shown : store.seen session number = some record) (holds : record.Holds rule)
    (bound : List (Text × Value)) :
    (store.step session (.dates id bound)).1 =
      do return .dates (← rule.dates (← Bound.ofEntries bound)) := by
  have found : lookup (store.seen session) id = .ok record :=
    lookup_eq_ok.mpr ⟨number, named, narrow, shown⟩
  rw [step_dates, found]
  show (record.toRule.bind _) = _
  rw [holds.toRule]
  rfl

end Store

end Recurrence
