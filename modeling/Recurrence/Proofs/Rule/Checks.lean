/-
**What the checks of a draft accept.**

Each check of a field accepts the written form of what it makes, and nothing else; only weekdays may
be listed in any order and repeatedly. So a draft is made into a rule exactly when its fields hold
that rule, whatever stands in the fields of other kinds.

* `Value.asKind_eq_ok_iff` and the like: what the check of a field accepts;
* `Value.asWeekdays_eq_ok_iff`: accepted weekdays are listed in some order;
* `Pattern.ofDraft_eq_ok_iff`: a pattern is read from the fields that hold it;
* `Draft.toRule_eq_ok_iff`: a rule is made of the drafts that hold it;
* `Draft.ReadsAlike.ofDraft_eq`: drafts whose fields are read alike are made into the same rule;
* `Rule.readsAlike_ofRule`: what a rule is made of is read like the form of the rule.
-/
import Recurrence.Proofs.Rule.Draft

namespace Recurrence

/-! ### Results -/

theorem bind_eq_ok_iff {α β ε : Type} {result : Except ε α} {next : α → Except ε β} {content : β} :
    result >>= next = .ok content ↔ ∃ part, result = .ok part ∧ next part = .ok content := by
  cases result with
  | error cause => exact ⟨nofun, fun ⟨_, found, _⟩ => by cases found⟩
  | ok part =>
    refine ⟨fun made => ⟨part, rfl, made⟩, fun ⟨_, found, made⟩ => ?_⟩
    cases found
    exact made

theorem bind_eq_error_iff {α β ε : Type} {result : Except ε α} {next : α → Except ε β} {cause : ε} :
    result >>= next = .error cause ↔
      result = .error cause ∨ ∃ part, result = .ok part ∧ next part = .error cause := by
  cases result with
  | error other =>
    refine ⟨fun refused => Or.inl (congrArg Except.error (Except.error.inj refused)), ?_⟩
    rintro (same | ⟨_, found, _⟩)
    · cases same
      rfl
    · cases found
  | ok part =>
    refine ⟨fun refused => Or.inr ⟨part, rfl, refused⟩, ?_⟩
    rintro (same | ⟨_, found, refused⟩)
    · cases same
    · cases found
      exact refused

theorem mapError_bind {α β ε ε' : Type} {result : Except ε α} {next : α → Except ε β}
    {wrap : ε → ε'} :
    (result >>= next).mapError wrap =
      result.mapError wrap >>= fun content => (next content).mapError wrap := by
  cases result <;> rfl

theorem mapError_eq_ok_iff {α ε ε' : Type} {wrap : ε → ε'} {result : Except ε α} {content : α} :
    result.mapError wrap = .ok content ↔ result = .ok content := by
  cases result with
  | error cause => exact ⟨nofun, nofun⟩
  | ok other => exact ⟨fun same => by cases same; rfl, fun same => by cases same; rfl⟩

/-- Items are read one by one exactly when each of them is as it is written. -/
theorem mapM_eq_ok_iff {α β ε : Type} {write : α → β} {read : β → Except ε α}
    (reads : ∀ item content, read item = .ok content ↔ item = write content) {items : List β}
    {contents : List α} : items.mapM read = .ok contents ↔ items = contents.map write := by
  constructor
  · intro made
    induction items generalizing contents with
    | nil =>
      cases made
      rfl
    | cons item items ih =>
      rw [List.mapM_cons] at made
      obtain ⟨first, found, made⟩ := bind_eq_ok_iff.mp made
      obtain ⟨others, later, made⟩ := bind_eq_ok_iff.mp made
      cases made
      rw [List.map_cons, ← (reads item first).mp found, ← ih later]
  · rintro rfl
    exact mapM_map_ok fun content _ => (reads _ content).mpr rfl

/-! ### Single fields -/

/-- The choice of listed weekdays is the one that has them as its members. -/
theorem WeekdaySet.ofList_eq_iff {first : Weekday} {others : List Weekday}
    {weekdays : WeekdaySet} :
    ofList first others = weekdays ↔
      ∀ weekday, weekday ∈ weekdays ↔ weekday ∈ first :: others := by
  constructor
  · rintro rfl weekday
    exact mem_ofList
  · intro same
    exact ext_mem fun weekday => mem_ofList.trans (same weekday).symm

/-- A kind is known by its name only. -/
theorem Kind.ofName?_eq_some_iff {text : String} {kind : Kind} :
    ofName? text = some kind ↔ text = kind.name := by
  refine ⟨fun found => ?_, fun same => by rw [same, ofName?_name]⟩
  have named := List.find?_some found
  exact (eq_of_beq named).symm

/-- An ordinal is known by its name only. -/
theorem Ordinal.ofName?_eq_some_iff {text : String} {ordinal : Ordinal} :
    ofName? text = some ordinal ↔ text = ordinal.name := by
  refine ⟨fun found => ?_, fun same => by rw [same, ofName?_name]⟩
  have named := List.find?_some found
  exact (eq_of_beq named).symm

namespace Value

variable {value : Value}

theorem asKind_eq_ok_iff {kind : Kind} : value.asKind = .ok kind ↔ value = .text kind.name := by
  refine ⟨fun made => ?_, fun same => by rw [same, asKind_name]⟩
  unfold asKind at made
  split at made
  · split at made
    · rename_i name _ _ found
      cases made
      obtain ⟨string, written, named⟩ := Option.bind_eq_some_iff.mp found
      rw [Text.string?_eq_some_iff.mp written, Kind.ofName?_eq_some_iff.mp named]
    · cases made
  · cases made

/-- What names no kind is refused and shown. -/
theorem asKind_cases (named : Value) :
    (∃ kind : Kind, named = .text kind.name) ∨
      named.asKind = .error (.showing .unsupportedKind named) := by
  cases checked : named.asKind with
  | ok kind => exact Or.inl ⟨kind, asKind_eq_ok_iff.mp checked⟩
  | error cause =>
    right
    unfold asKind at checked
    split at checked
    · split at checked <;> cases checked
      rfl
    · cases checked
      rfl

theorem asOrdinal_eq_ok_iff {ordinal : Ordinal} :
    value.asOrdinal = .ok ordinal ↔ value = .text ordinal.name := by
  refine ⟨fun made => ?_, fun same => by rw [same, asOrdinal_name]⟩
  unfold asOrdinal at made
  split at made
  · split at made
    · rename_i name _ _ found
      cases made
      obtain ⟨string, written, named⟩ := Option.bind_eq_some_iff.mp found
      rw [Text.string?_eq_some_iff.mp written, Ordinal.ofName?_eq_some_iff.mp named]
    · cases made
  · cases made

theorem asInterval_eq_ok_iff {interval : { interval : Int // 1 ≤ interval }} :
    value.asInterval = .ok interval ↔ value = .int interval.val := by
  refine ⟨fun made => ?_, fun same => by rw [same, asInterval_int interval.property]⟩
  unfold asInterval at made
  split at made
  · split at made
    · cases made
      rfl
    · cases made
  · cases made

theorem asWeekday_eq_ok_iff {field : Value} {weekday : Weekday} :
    value.asWeekday field = .ok weekday ↔ value = ofWeekday weekday := by
  refine ⟨fun made => ?_, fun same => by rw [same, asWeekday_ofWeekday]⟩
  unfold asWeekday at made
  split at made
  · rename_i number
    split at made
    · cases made
      simp only [ofWeekday, int.injEq]
      omega
    · cases made
  · cases made

/-- No weekday is written but the numbers from 0 to 6. -/
theorem ne_ofWeekday_iff : (∀ weekday, value ≠ ofWeekday weekday) ↔
    ∀ number : Int, 0 ≤ number ∧ number ≤ 6 → value ≠ int number := by
  constructor
  · intro none number valid
    have place : (number.toNat : Int) = number := by omega
    rw [← place]
    exact none ⟨number.toNat, by omega⟩
  · intro none weekday
    exact none weekday.val (by omega)

theorem asMonthDay_eq_ok_iff {day : MonthDay} :
    value.asMonthDay = .ok day ↔ value = .int day.number := by
  refine ⟨fun made => ?_, fun same => by rw [same, asMonthDay_number]⟩
  unfold asMonthDay at made
  split at made
  · split at made
    · cases made
      rfl
    · cases made
  · cases made

theorem asStartDate_eq_ok_iff {start : Date} :
    value.asStartDate = .ok start ↔ value = .date start := by
  cases value <;> simp [asStartDate]

theorem asEndDate_eq_ok_iff {start : Date}
    {endDate : { endDate : Option Date // ∀ last ∈ endDate, start ≤ last }} :
    value.asEndDate start = .ok endDate ↔ value = .ofOption .date endDate.val := by
  refine ⟨fun made => ?_, fun same => by rw [same, asEndDate_ofOption endDate.property]⟩
  unfold asEndDate at made
  split at made
  · cases made
    rfl
  · split at made
    · cases made
      rfl
    · cases made
  · cases made

/-! What a check of a field does not accept, it refuses and shows. -/

theorem asInterval_eq_error {cause : RuleError} (refused : value.asInterval = .error cause) :
    cause = .showing .invalidInterval value := by
  unfold asInterval at refused
  split at refused
  · split at refused <;> cases refused
    rfl
  · cases refused
    rfl

theorem asWeekday_eq_error {field : Value} {cause : RuleError}
    (refused : value.asWeekday field = .error cause) :
    cause = .showing (.invalidWeekday field) value := by
  unfold asWeekday at refused
  split at refused
  · split at refused <;> cases refused
    rfl
  · cases refused
    rfl

theorem asMonthDay_eq_error {cause : RuleError} (refused : value.asMonthDay = .error cause) :
    cause = .showing .invalidMonthDay value := by
  unfold asMonthDay at refused
  split at refused
  · split at refused <;> cases refused
    rfl
  · cases refused
    rfl

theorem asOrdinal_eq_error {cause : RuleError} (refused : value.asOrdinal = .error cause) :
    cause = .showing .unsupportedOrdinal value := by
  unfold asOrdinal at refused
  split at refused
  · split at refused <;> cases refused
    rfl
  · cases refused
    rfl

theorem asStartDate_eq_error {cause : RuleError} (refused : value.asStartDate = .error cause) :
    cause = .showing .startNoDate value := by
  unfold asStartDate at refused
  split at refused <;> cases refused
  rfl

theorem asEndDate_eq_error {start : Date} {cause : RuleError}
    (refused : value.asEndDate start = .error cause) :
    (value ≠ .null ∧ (∀ date, value ≠ .date date) ∧ cause = .showing .endNoDate value) ∨
      ∃ last, value = .date last ∧ last < start ∧ cause = .endBeforeStart last start := by
  unfold asEndDate at refused
  split at refused
  · cases refused
  · rename_i last
    split at refused
    · cases refused
    · rename_i before
      cases refused
      exact .inr ⟨last, rfl, Int.not_le.mp before, rfl⟩
  · rename_i given wrong
    cases refused
    exact .inl ⟨given, wrong, rfl⟩

/-- The check of listed weekdays looks at one after the other. -/
theorem asWeekdays_list (items : List Value) :
    (list items).asWeekdays =
      (items.mapM fun item : Value => item.asWeekday (ofField .daysOfWeek)).mapError .rule >>= fun
        | [] => .error (.rule .noWeekdays)
        | first :: others => .ok (.ofList first others) := by
  cases items with
  | nil => rfl
  | cons item items => rfl

/-- **Accepted weekdays are listed in some order, each at least once.** -/
theorem asWeekdays_eq_ok_iff {items : List Value} {weekdays : WeekdaySet} :
    (list items).asWeekdays = .ok weekdays ↔
      ∃ listed : List Weekday, items = listed.map ofWeekday ∧
        ∀ weekday, weekday ∈ weekdays ↔ weekday ∈ listed := by
  rw [asWeekdays_list, bind_eq_ok_iff]
  refine exists_congr fun listed => ?_
  rw [mapError_eq_ok_iff, mapM_eq_ok_iff fun _ _ => asWeekday_eq_ok_iff]
  refine and_congr_right fun _ => ?_
  cases listed with
  | nil =>
    refine ⟨nofun, fun same => ?_⟩
    obtain ⟨weekday, chosen⟩ := List.exists_mem_of_ne_nil _ weekdays.nonempty
    exact absurd ((same weekday).mp chosen) List.not_mem_nil
  | cons first others =>
    exact ⟨fun made => WeekdaySet.ofList_eq_iff.mp (Except.ok.inj made),
      fun same => congrArg Except.ok (WeekdaySet.ofList_eq_iff.mpr same)⟩

end Value

/-! ### Rules -/

/-- The fields of a draft hold a pattern. Weekdays may be listed in any order, and repeatedly. -/
def Pattern.IsHeldBy (draft : Draft) : Pattern → Prop
  | daily | yearly => True
  | weekly weekdays => ∃ listed : List Weekday,
    draft.daysOfWeek = .list (listed.map .ofWeekday) ∧
      ∀ weekday, weekday ∈ weekdays ↔ weekday ∈ listed
  | monthlyByDay day => draft.monthDay = .int day.number
  | monthlyByWeekday ordinal weekday =>
    draft.monthWeek = .text ordinal.name ∧ draft.monthWeekDay = .ofWeekday weekday

/-- **A pattern is read from the fields that hold it,** the weekdays being listed. -/
theorem Pattern.ofDraft_eq_ok_iff {kind : Kind} {draft : Draft} {pattern : Pattern}
    (listed : kind = .weekly → ∃ items, draft.daysOfWeek = .list items) :
    ofDraft kind draft = .ok pattern ↔ pattern.kind = kind ∧ pattern.IsHeldBy draft := by
  cases kind with
  | daily => cases pattern <;> simp [ofDraft, Pattern.kind, IsHeldBy]
  | yearly => cases pattern <;> simp [ofDraft, Pattern.kind, IsHeldBy]
  | weekly =>
    obtain ⟨items, days⟩ := listed rfl
    unfold ofDraft
    simp only [bind_eq_ok_iff, days, Value.asWeekdays_eq_ok_iff]
    cases pattern <;> simp [Pattern.kind, IsHeldBy, days, pure, Except.pure]
  | monthlyByDay =>
    unfold ofDraft
    simp only [bind_eq_ok_iff, mapError_eq_ok_iff, Value.asMonthDay_eq_ok_iff]
    cases pattern <;> simp [Pattern.kind, IsHeldBy, pure, Except.pure]
  | monthlyByWeekday =>
    unfold ofDraft
    simp only [bind_eq_ok_iff, mapError_eq_ok_iff, Value.asOrdinal_eq_ok_iff,
      Value.asWeekday_eq_ok_iff]
    cases pattern <;> simp [Pattern.kind, IsHeldBy, pure, Except.pure]

/-- The fields of a draft hold a rule. -/
structure Draft.Holds (draft : Draft) (rule : Rule) : Prop where
  kind : draft.recurrenceType = .text rule.kind.name
  interval : draft.interval = .int rule.interval
  startDate : draft.startDate = .date rule.startDate
  endDate : draft.endDate = .ofOption .date rule.endDate
  pattern : rule.pattern.IsHeldBy draft

/-- The checks of a kind make a rule of the drafts whose fields hold it, whatever kind they name. -/
theorem Rule.ofDraft_eq_ok_iff {kind : Kind} {draft : Draft} {rule : Rule}
    (listed : kind = .weekly → ∃ items, draft.daysOfWeek = .list items) :
    ofDraft kind draft = .ok rule ↔
      rule.kind = kind ∧ draft.interval = .int rule.interval ∧
        draft.startDate = .date rule.startDate ∧
        draft.endDate = .ofOption .date rule.endDate ∧ rule.pattern.IsHeldBy draft := by
  unfold ofDraft
  simp only [bind_eq_ok_iff, mapError_eq_ok_iff, Value.asInterval_eq_ok_iff,
    Pattern.ofDraft_eq_ok_iff listed, Value.asStartDate_eq_ok_iff, Value.asEndDate_eq_ok_iff]
  constructor
  · rintro ⟨⟨interval, one_le⟩, every, pattern, ⟨own, held⟩, start, begins, ⟨last, ordered⟩, ends,
      made⟩
    cases made
    exact ⟨own, every, begins, ends, held⟩
  · rintro ⟨own, every, begins, ends, held⟩
    exact ⟨⟨rule.interval, rule.one_le_interval⟩, every, rule.pattern, ⟨own, held⟩,
      rule.startDate, begins, ⟨rule.endDate, rule.start_le_end⟩, ends, rfl⟩

/-- The items of a value are weekdays only if the value is a list. -/
theorem Value.items_weekdays {value : Value} {first : Weekday} {others : List Weekday}
    (found : value.items = .ok ((first :: others).map ofWeekday)) :
    value = .list ((first :: others).map ofWeekday) := by
  cases value with
  | list items =>
    cases found
    rfl
  | text text =>
    have same := Except.ok.inj found
    cases codePoints : text.codePoints <;> rw [codePoints] at same <;> cases same
  | object entries =>
    have same := Except.ok.inj found
    cases entries <;> cases same
  | _ => cases found

/-- A draft of an unknown kind is refused for it, whatever else it holds. -/
theorem Draft.toRule_of_unknown {draft : Draft} {cause : RuleError}
    (unknown : draft.recurrenceType.asKind = .error cause) :
    draft.toRule = .error (.rule cause) := by
  unfold toRule
  rw [unknown]
  rfl

/-- Kinds other than the weekly one are made into rules without a look at the weekdays. -/
theorem Draft.toRule_of_ne_weekly {draft : Draft} {kind : Kind}
    (named : draft.recurrenceType = .text kind.name) (other : kind ≠ .weekly) :
    draft.toRule = Rule.ofDraft kind draft := by
  unfold toRule
  rw [named, Value.asKind_name]
  cases kind with
  | weekly => exact absurd rfl other
  | daily | monthlyByDay | monthlyByWeekday | yearly => rfl

/-- Weekdays that are listed already stay as they are. -/
theorem Draft.toRule_of_weekly {draft : Draft} {items : List Value}
    (named : draft.recurrenceType = .text Kind.weekly.name)
    (days : draft.daysOfWeek = .list items) : draft.toRule = Rule.ofDraft .weekly draft := by
  obtain ⟨recurrenceType⟩ := draft
  subst named days
  unfold toRule
  rw [Value.asKind_name]
  rfl

/-- **A rule is made of the drafts whose fields hold it.** -/
theorem Draft.toRule_eq_ok_iff {draft : Draft} {rule : Rule} :
    draft.toRule = .ok rule ↔ draft.Holds rule := by
  constructor
  · intro made
    obtain ⟨kind, named, checked⟩ := bind_eq_ok_iff.mp made
    replace named := Value.asKind_eq_ok_iff.mp (mapError_eq_ok_iff.mp named)
    by_cases weekly : kind = .weekly
    · subst weekly
      obtain ⟨items, found, checked⟩ := bind_eq_ok_iff.mp checked
      replace found := mapError_eq_ok_iff.mp found
      obtain ⟨own, every, begins, ends, held⟩ :=
        (Rule.ofDraft_eq_ok_iff fun _ => ⟨items, rfl⟩).mp checked
      refine ⟨by rw [own, named], every, begins, ends, ?_⟩
      obtain ⟨pattern⟩ := rule
      cases pattern with
      | weekly weekdays =>
        obtain ⟨listed, same, members⟩ := held
        refine ⟨listed, ?_, members⟩
        cases listed with
        | nil =>
          obtain ⟨weekday, chosen⟩ := List.exists_mem_of_ne_nil _ weekdays.nonempty
          exact absurd ((members weekday).mp chosen) List.not_mem_nil
        | cons first others =>
          rw [Value.list.inj same] at found
          exact Value.items_weekdays found
      | daily | monthlyByDay day | monthlyByWeekday ordinal weekday | yearly => cases own
    · rw [toRule_of_ne_weekly named weekly] at made
      obtain ⟨own, every, begins, ends, held⟩ :=
        (Rule.ofDraft_eq_ok_iff fun same => absurd same weekly).mp made
      exact ⟨by rw [own, named], every, begins, ends, held⟩
  · rintro ⟨named, every, begins, ends, held⟩
    by_cases weekly : rule.kind = .weekly
    · obtain ⟨items, days⟩ : ∃ items, draft.daysOfWeek = .list items := by
        obtain ⟨pattern⟩ := rule
        cases pattern with
        | weekly weekdays => exact ⟨_, held.choose_spec.1⟩
        | daily | monthlyByDay day | monthlyByWeekday ordinal weekday | yearly => cases weekly
      rw [toRule_of_weekly (weekly ▸ named) days]
      exact (Rule.ofDraft_eq_ok_iff fun _ => ⟨items, days⟩).mpr
        ⟨weekly, every, begins, ends, held⟩
    · rw [toRule_of_ne_weekly named weekly]
      exact (Rule.ofDraft_eq_ok_iff fun same => absurd same weekly).mpr
        ⟨rfl, every, begins, ends, held⟩

/-! ### Drafts that are read alike -/

/-- Two values are read alike from a field: they are the same, or weekdays listed in another way. -/
def Field.ReadsAlike (field : Field) (value other : Value) : Prop :=
  match field with
  | .daysOfWeek => other.asWeekdays = value.asWeekdays
  | _ => other = value

theorem Field.ReadsAlike.refl (field : Field) (value : Value) : field.ReadsAlike value value := by
  cases field <;> rfl

/-- The fields that a kind of rule has are read alike from two drafts. -/
def Draft.ReadsAlike (kind : Kind) (draft other : Draft) : Prop :=
  ∀ field ∈ kind.form.fields, field.ReadsAlike (draft.get field) (other.get field)

namespace Draft.ReadsAlike

variable {kind : Kind} {draft other : Draft}

/-- **Drafts that are read alike are made into the same rule, or refused alike.** -/
theorem ofDraft_eq (alike : draft.ReadsAlike kind other) :
    Rule.ofDraft kind other = Rule.ofDraft kind draft := by
  have interval : other.interval = draft.interval := alike .interval (by simp [Kind.form])
  have startDate : other.startDate = draft.startDate := alike .startDate (by simp [Kind.form])
  have endDate : other.endDate = draft.endDate := alike .endDate (by simp [Kind.form])
  have pattern : Pattern.ofDraft kind other = Pattern.ofDraft kind draft := by
    cases kind with
    | daily | yearly => rfl
    | weekly =>
      have days : other.daysOfWeek.asWeekdays = draft.daysOfWeek.asWeekdays :=
        alike .daysOfWeek (by decide)
      simp only [Pattern.ofDraft, days]
    | monthlyByDay =>
      have day : other.monthDay = draft.monthDay := alike .monthDay (by decide)
      simp only [Pattern.ofDraft, day]
    | monthlyByWeekday =>
      have week : other.monthWeek = draft.monthWeek := alike .monthWeek (by decide)
      have weekday : other.monthWeekDay = draft.monthWeekDay := alike .monthWeekDay (by decide)
      simp only [Pattern.ofDraft, week, weekday]
  unfold Rule.ofDraft
  rw [interval, startDate, endDate, pattern]

end Draft.ReadsAlike

/-- The fields of a pattern are read from a form that it is written on as from the draft that it was
read from. -/
theorem Pattern.readsAlike_withPattern {kind : Kind} {draft : Draft} {pattern : Pattern}
    (read : ofDraft kind draft = .ok pattern) (form : Draft) :
    pattern.kind = kind ∧ ∀ field ∈ kind.ownFields,
      field.ReadsAlike (draft.get field) ((form.withPattern pattern).get field) := by
  cases kind with
  | daily | yearly =>
    cases read
    exact ⟨rfl, nofun⟩
  | weekly =>
    obtain ⟨weekdays, found, made⟩ := bind_eq_ok_iff.mp read
    cases made
    refine ⟨rfl, fun field own => ?_⟩
    obtain rfl := List.mem_singleton.mp own
    exact (Value.asWeekdays_ofWeekday weekdays).trans found.symm
  | monthlyByDay =>
    obtain ⟨day, found, made⟩ := bind_eq_ok_iff.mp read
    cases made
    refine ⟨rfl, fun field own => ?_⟩
    obtain rfl := List.mem_singleton.mp own
    exact (Value.asMonthDay_eq_ok_iff.mp (mapError_eq_ok_iff.mp found)).symm
  | monthlyByWeekday =>
    obtain ⟨ordinal, week, made⟩ := bind_eq_ok_iff.mp read
    obtain ⟨weekday, day, made⟩ := bind_eq_ok_iff.mp made
    cases made
    refine ⟨rfl, List.forall_mem_cons.mpr ⟨?_, List.forall_mem_singleton.mpr ?_⟩⟩
    · exact (Value.asOrdinal_eq_ok_iff.mp (mapError_eq_ok_iff.mp week)).symm
    · exact (Value.asWeekday_eq_ok_iff.mp (mapError_eq_ok_iff.mp day)).symm

/-- **What the checks of a kind make a rule of is read like the form of that rule.** -/
theorem Rule.readsAlike_ofRule {kind : Kind} {draft : Draft} {rule : Rule}
    (made : ofDraft kind draft = .ok rule) :
    rule.kind = kind ∧ draft.ReadsAlike kind (Draft.ofRule rule) := by
  obtain ⟨⟨interval, positive⟩, every, made⟩ := bind_eq_ok_iff.mp made
  obtain ⟨pattern, read, made⟩ := bind_eq_ok_iff.mp made
  obtain ⟨start, begins, made⟩ := bind_eq_ok_iff.mp made
  obtain ⟨⟨last, ordered⟩, ends, made⟩ := bind_eq_ok_iff.mp made
  cases made
  obtain ⟨own, fields⟩ := Pattern.readsAlike_withPattern read _
  refine ⟨own, List.forall_mem_append.mpr ⟨?_, fields⟩⟩
  refine List.forall_mem_cons.mpr ⟨?_, List.forall_mem_cons.mpr ⟨?_,
    List.forall_mem_singleton.mpr ?_⟩⟩
  · exact (Draft.ofRule_interval _).trans
      (Value.asInterval_eq_ok_iff.mp (mapError_eq_ok_iff.mp every)).symm
  · exact (Draft.ofRule_startDate _).trans
      (Value.asStartDate_eq_ok_iff.mp (mapError_eq_ok_iff.mp begins)).symm
  · exact (Draft.ofRule_endDate _).trans
      (Value.asEndDate_eq_ok_iff.mp (mapError_eq_ok_iff.mp ends)).symm

end Recurrence
