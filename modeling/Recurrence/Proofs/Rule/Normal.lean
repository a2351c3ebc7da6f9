/-
**The normal form of a draft.**

A valid draft describes a rule, and the form of that rule is the draft's normal form. It describes
the same rule, so the drafts of one rule share it; and a draft is in normal form already exactly
when nothing is left in the fields of other kinds and its weekdays are listed in increasing order.

* `Draft.isNormal_ofRule`: the form of a rule is in normal form;
* `Draft.Holds.eq_ofRule`: a draft in normal form is the form of the rule that it holds;
* `Draft.normalForm_sound`: the three properties of normal forms.
-/
import Recurrence.Proofs.Rule.Checks

namespace Recurrence

/-- Kinds are told apart by their names. -/
theorem Kind.name_inj {kind other : Kind} : kind.name = other.name ↔ kind = other :=
  ⟨fun same => Option.some_inj.mp (by rw [← ofName?_name, ← ofName?_name, same]), congrArg name⟩

/-- The chosen weekdays of a pattern are numbered in increasing order. -/
theorem Pattern.weekdayNumbers_increasing (pattern : Pattern) :
    pattern.weekdayNumbers.Pairwise (· < ·) := by
  cases pattern with
  | weekly weekdays =>
    refine List.pairwise_map.mpr (weekdays.increasing.imp fun {earlier later} less => ?_)
    exact_mod_cast less
  | daily | monthlyByDay day | monthlyByWeekday ordinal weekday | yearly => exact .nil

/-- Weekdays listed in increasing order are listed as the choice of them lists them. -/
theorem WeekdaySet.toList_eq {weekdays : WeekdaySet} {listed : List Weekday}
    (members : ∀ weekday, weekday ∈ weekdays ↔ weekday ∈ listed)
    (increasing : listed.Pairwise (· < ·)) : listed = weekdays.toList := by
  obtain ⟨weekday, chosen⟩ := List.exists_mem_of_ne_nil _ weekdays.nonempty
  have same : weekdays = ⟨listed, increasing, List.ne_nil_of_mem ((members weekday).mp chosen)⟩ :=
    ext_mem members
  rw [same]

namespace Draft

variable {draft : Draft} {rule : Rule}

/-- The form of the rule that a draft describes. -/
def normalForm (draft : Draft) : Except Error Draft := draft.toRule.map ofRule

/-- A draft on which nothing is left to tidy up. -/
structure IsNormal (draft : Draft) : Prop where
  /-- Fields that only other kinds have are empty. -/
  others_blank : ∀ kind : Kind, draft.recurrenceType ≠ .text kind.name →
    ∀ field ∈ kind.ownFields, draft.get field = blank.get field
  /-- The weekdays are listed in increasing order, none of them twice. -/
  increasing : ∃ numbers : List Int,
    draft.daysOfWeek = .list (numbers.map .int) ∧ numbers.Pairwise (· < ·)

/-! ### Forms of rules -/

/-- A pattern empties the fields that only other kinds have. -/
theorem withPattern_get_of_ne {pattern : Pattern} {kind : Kind} (other : pattern.kind ≠ kind) :
    ∀ field ∈ kind.ownFields, (draft.withPattern pattern).get field = blank.get field := by
  cases kind <;> cases pattern <;>
    first
    | exact absurd rfl other
    | simp [Kind.ownFields, withPattern, Pattern.fields, setAll, set, get]

/-- A draft that is given a pattern is in normal form, whatever stood in its fields. -/
theorem isNormal_withPattern (draft : Draft) (pattern : Pattern) :
    (draft.withPattern pattern).IsNormal where
  others_blank kind unnamed := by
    refine withPattern_get_of_ne fun same => unnamed ?_
    rw [withPattern_recurrenceType, same]
  increasing := ⟨_, withPattern_daysOfWeek .., pattern.weekdayNumbers_increasing⟩

/-- **The form of a rule is in normal form.** -/
theorem isNormal_ofRule (rule : Rule) : (ofRule rule).IsNormal :=
  isNormal_withPattern ..

/-- Drafts are the same if all their fields are. -/
theorem ext_get {other : Draft} (same : ∀ field, draft.get field = other.get field) :
    draft = other := by
  obtain ⟨⟩ := draft
  obtain ⟨⟩ := other
  exact mk.injEq .. ▸ ⟨same .recurrenceType, same .startDate, same .interval, same .endDate,
    same .daysOfWeek, same .monthDay, same .monthWeek, same .monthWeekDay⟩

/-- Where the weekdays are listed in increasing order, the fields that hold a rule are filled in as
on the form of the rule. -/
theorem Holds.get_ownFields (holds : draft.Holds rule) (normal : draft.IsNormal) :
    ∀ field ∈ rule.kind.ownFields, draft.get field = (ofRule rule).get field := by
  obtain ⟨_, _, _, _, held⟩ := holds
  obtain ⟨pattern⟩ := rule
  cases pattern with
  | daily | yearly => nofun
  | weekly weekdays =>
    obtain ⟨listed, days, members⟩ := held
    obtain ⟨numbers, numbered, increasing⟩ := normal.increasing
    have same : numbers = listed.map fun weekday => (weekday.val : Int) := by
      have items : numbers.map Value.int =
          (listed.map fun weekday => (weekday.val : Int)).map Value.int := by
        rw [List.map_map]
        exact Value.list.inj (numbered.symm.trans days)
      exact (List.map_inj_right fun _ _ => Value.int.inj).mp items
    have sorted : listed.Pairwise (· < ·) := by
      rw [same, List.pairwise_map] at increasing
      exact increasing.imp fun less => by exact_mod_cast less
    rw [WeekdaySet.toList_eq members sorted] at days
    intro field own
    obtain rfl := List.mem_singleton.mp own
    exact days
  | monthlyByDay day =>
    intro field own
    obtain rfl := List.mem_singleton.mp own
    exact held
  | monthlyByWeekday ordinal weekday =>
    intro field own
    rcases List.mem_cons.mp own with rfl | own
    · exact held.1
    · obtain rfl := List.mem_singleton.mp own
      exact held.2

/-- **A draft in normal form is the form of the rule that it holds.** -/
theorem Holds.eq_ofRule (holds : draft.Holds rule) (normal : draft.IsNormal) :
    draft = ofRule rule := by
  have others (kind : Kind) :
      ∀ field ∈ kind.ownFields, draft.get field = (ofRule rule).get field := by
    by_cases same : rule.kind = kind
    · exact same ▸ holds.get_ownFields normal
    · intro field own
      have unnamed : Value.text rule.kind.name ≠ .text kind.name :=
        fun text => same (Kind.name_inj.mp (Text.ofString_inj.mp (Value.text.inj text)))
      rw [normal.others_blank kind (holds.kind ▸ unnamed) field own]
      exact (withPattern_get_of_ne same field own).symm
  refine ext_get fun field => ?_
  cases field with
  | recurrenceType => exact holds.kind.trans (ofRule_recurrenceType rule).symm
  | startDate => exact holds.startDate.trans (ofRule_startDate rule).symm
  | interval => exact holds.interval.trans (ofRule_interval rule).symm
  | endDate => exact holds.endDate.trans (ofRule_endDate rule).symm
  | daysOfWeek => exact others .weekly _ (.head _)
  | monthDay => exact others .monthlyByDay _ (.head _)
  | monthWeek => exact others .monthlyByWeekday _ (.head _)
  | monthWeekDay => exact others .monthlyByWeekday _ (.tail _ (.head _))

/-! ### Normal forms -/

/-- The normal form of a valid draft is the form of its rule. -/
theorem normalForm_eq (valid : draft.toRule = .ok rule) : draft.normalForm = .ok (ofRule rule) := by
  rw [normalForm, valid]
  rfl

/-- Different rules have different forms. -/
theorem ofRule_inj {other : Rule} : ofRule rule = ofRule other ↔ rule = other :=
  ⟨fun same => Except.ok.inj (by rw [← toRule_ofRule, same, toRule_ofRule]), congrArg ofRule⟩

/-- **Every rule is made again from its form, and the form of the rule that a draft describes is a
normal form of the draft**: it describes the same rule, it is the draft itself exactly when nothing
is left to tidy up on that, and it is shared by the drafts of one rule only. -/
theorem normalForm_sound :
    (∀ rule : Rule, (ofRule rule).toRule = .ok rule) ∧
    (∀ (draft : Draft) (rule : Rule), draft.toRule = .ok rule →
      ∃ form, draft.normalForm = .ok form ∧ form.toRule = .ok rule ∧
        (form = draft ↔ draft.IsNormal)) ∧
    ∀ (first second : Draft) (firstRule secondRule : Rule),
      first.toRule = .ok firstRule → second.toRule = .ok secondRule →
        (first.normalForm = second.normalForm ↔ firstRule = secondRule) := by
  refine ⟨toRule_ofRule, fun draft rule valid => ?_,
    fun first second firstRule secondRule firstValid secondValid => ?_⟩
  · refine ⟨ofRule rule, normalForm_eq valid, toRule_ofRule rule, fun same => ?_, fun normal => ?_⟩
    · exact same ▸ isNormal_ofRule rule
    · exact ((toRule_eq_ok_iff.mp valid).eq_ofRule normal).symm
  · rw [normalForm_eq firstValid, normalForm_eq secondValid, Except.ok.injEq, ofRule_inj]

/-- A draft for Mondays and Fridays that lists a day twice and has kept a day of the month. -/
def cluttered : Draft where
  recurrenceType := .text "weekly"
  startDate := .date ⟨739873, by decide, by decide⟩
  interval := .int 4
  endDate := .date ⟨740237, by decide, by decide⟩
  daysOfWeek := .list [.int 5, .int 1, .int 5]
  monthDay := .int 31
  monthWeek := .null
  monthWeekDay := .null

/-- The rule that it describes. -/
def tidied : Rule where
  pattern := .weekly (.ofList ⟨1, by decide⟩ [⟨5, by decide⟩])
  interval := 4
  startDate := ⟨739873, by decide, by decide⟩
  endDate := some ⟨740237, by decide, by decide⟩
  one_le_interval := by decide
  start_le_end := by decide

/-- A cluttered draft has a normal form, which is not the draft but that of the rule's form. -/
theorem normalForm_cluttered :
    cluttered.toRule = .ok tidied ∧
      (∃ form, cluttered.normalForm = .ok form ∧ form.toRule = .ok tidied ∧
        (form = cluttered ↔ cluttered.IsNormal)) ∧
      cluttered.normalForm = (ofRule tidied).normalForm := by
  have valid : cluttered.toRule = .ok tidied := rfl
  obtain ⟨again, normal, shared⟩ := normalForm_sound
  exact ⟨valid, normal cluttered tidied valid,
    (shared cluttered (ofRule tidied) tidied tidied valid (again tidied)).mpr rfl⟩

end Draft

end Recurrence
