/-
**What forms are refused for.**

Whatever is wrong with a field of a form, the check of that field names it if it can show what the
field holds, so the refusal can be written. Only an unknown kind is shown as it was given: a request
that names one with halves of surrogate pairs is refused in words that cannot be written. Nothing
but a refusal comes of a form that is not made into a rule.

* `Draft.IsWritable`: all that the fields of a draft hold can be shown;
* `Names.mapM`, `Value.names_asInterval` and the like: each check names its field;
* `Draft.toRule_presentable`: a draft of a known kind is a rule, or refused in words that can be
  written;
* `Service.RuleForm.toRule_cases`: so is a form of any kind whose name can be written;
* `Service.RuleForm.BreaksOff`: what is asked with a form cannot be answered;
* `Draft.switched_cases`: a valid rule may be switched to every known kind.
-/
import Recurrence.Proofs.Rule.Switching
import Recurrence.Proofs.Service.Proper

namespace Recurrence

open Json (isProper isProperText)

/-! ### Checks -/

/-- Whatever a check refuses, it names a field. -/
def Names {α : Type} (field : Field) (check : Except RuleError α) : Prop :=
  ∀ cause, check = .error cause → cause.field = .ofField field

namespace Names

variable {α β : Type} {field : Field}

theorem ok (content : α) : Names field (.ok content) := fun _ refused => by cases refused

theorem error {cause : RuleError} (named : cause.field = .ofField field) :
    Names field (.error cause : Except RuleError α) := by
  intro other refused
  cases refused
  exact named

theorem bind {check : Except RuleError α} {next : α → Except RuleError β}
    (first : Names field check) (later : ∀ content, Names field (next content)) :
    Names field (check >>= next) := by
  cases check with
  | error cause => exact .error (first cause rfl)
  | ok content => exact later content

theorem mapM {check : α → Except RuleError β} {items : List α}
    (each : ∀ item ∈ items, Names field (check item)) : Names field (items.mapM check) := by
  induction items with
  | nil => exact .ok []
  | cons item items ih =>
    obtain ⟨first, later⟩ := List.forall_mem_cons.mp each
    rw [List.mapM_cons]
    exact .bind first fun _ => .bind (ih later) fun _ => .ok _

end Names

namespace Value

variable {value : Value} (writable : value.isWritable = true)
include writable

theorem names_asInterval : Names .interval value.asInterval := by
  intro cause refused
  rw [asInterval_eq_error refused, RuleError.showing_of_isWritable writable]
  rfl

theorem names_asWeekday (field : Field) : Names field (value.asWeekday (.ofField field)) := by
  intro cause refused
  rw [asWeekday_eq_error refused, RuleError.showing_of_isWritable writable]
  rfl

theorem names_asMonthDay : Names .monthDay value.asMonthDay := by
  intro cause refused
  rw [asMonthDay_eq_error refused, RuleError.showing_of_isWritable writable]
  rfl

theorem names_asOrdinal : Names .monthWeek value.asOrdinal := by
  intro cause refused
  rw [asOrdinal_eq_error refused, RuleError.showing_of_isWritable writable]
  rfl

theorem names_asStartDate : Names .startDate value.asStartDate := by
  intro cause refused
  rw [asStartDate_eq_error refused, RuleError.showing_of_isWritable writable]
  rfl

theorem names_asEndDate (start : Date) : Names .endDate (value.asEndDate start) := by
  intro cause refused
  rcases asEndDate_eq_error refused with ⟨_, _, rfl⟩ | ⟨_, _, _, rfl⟩
  · rw [RuleError.showing_of_isWritable writable]
    rfl
  · rfl

end Value

/-- A result that is no success is a refusal of a rule that can be presented. -/
def FailsPresentably {α : Type} (result : Except Error α) : Prop :=
  ∀ failure, result = .error failure → ∃ cause, failure = .rule cause ∧ cause.IsPresentable

namespace FailsPresentably

variable {α β : Type}

theorem ok (content : α) : FailsPresentably (.ok content) := fun _ failed => by cases failed

theorem bind {result : Except Error α} {next : α → Except Error β}
    (first : FailsPresentably result) (later : ∀ content, FailsPresentably (next content)) :
    FailsPresentably (result >>= next) := by
  intro failure failed
  cases result with
  | error cause => exact first failure (congrArg Except.error (Except.error.inj failed))
  | ok content => exact later content failure failed

/-- A check that names a field fails presentably, unless the field is that of the kind. -/
theorem check {result : Except RuleError α} {field : Field} (names : Names field result)
    (other : field ≠ .recurrenceType) : FailsPresentably (result.mapError .rule) := by
  intro failure failed
  cases result with
  | error cause =>
    exact ⟨cause, (Except.error.inj failed).symm,
      RuleError.isPresentable_of_field (names cause rfl) other⟩
  | ok content => cases failed

end FailsPresentably

theorem Value.asWeekdays_presentable {items : List Value}
    (writable : (list items).isWritable = true) : FailsPresentably (list items).asWeekdays := by
  have each := fun item inside => names_asWeekday (isWritable_list.mp writable item inside)
  rw [asWeekdays_list]
  refine .bind (.check (.mapM fun item inside => each item inside _) nofun) fun weekdays => ?_
  cases weekdays with
  | nil => exact .check (.error rfl : Names .daysOfWeek (.error .noWeekdays)) nofun
  | cons first others => exact .ok _

/-- All that the fields of a draft hold can be shown. -/
def Draft.IsWritable (draft : Draft) : Prop :=
  ∀ field : Field, (draft.get field).isWritable = true

/-- **Where the weekdays are listed, the checks of a kind fail presentably.** -/
theorem Rule.ofDraft_presentable {kind : Kind} {draft : Draft} (writable : draft.IsWritable)
    (listed : kind = .weekly → ∃ items, draft.daysOfWeek = .list items) :
    FailsPresentably (ofDraft kind draft) := by
  have pattern : FailsPresentably (Pattern.ofDraft kind draft) := by
    cases kind with
    | daily | yearly => exact .ok _
    | weekly =>
      obtain ⟨items, days⟩ := listed rfl
      have shown := writable .daysOfWeek
      unfold Draft.get at shown
      unfold Pattern.ofDraft
      rw [days] at shown ⊢
      exact .bind (Value.asWeekdays_presentable shown) fun _ => .ok _
    | monthlyByDay =>
      exact .bind (.check (Value.names_asMonthDay (writable .monthDay)) nofun) fun _ => .ok _
    | monthlyByWeekday =>
      exact .bind (.check (Value.names_asOrdinal (writable .monthWeek)) nofun) fun _ =>
        .bind (.check (Value.names_asWeekday (writable .monthWeekDay) _) nofun) fun _ => .ok _
  refine .bind (.check (Value.names_asInterval (writable .interval)) nofun) fun _ =>
    .bind pattern fun _ => ?_
  exact .bind (.check (Value.names_asStartDate (writable .startDate)) nofun) fun start =>
    .bind (.check (Value.names_asEndDate (writable .endDate) start) nofun) fun _ => .ok _

/-- **A draft whose kind is known fails presentably.** -/
theorem Draft.toRule_presentable {draft : Draft} (writable : draft.IsWritable) {kind : Kind}
    {items : List Value} (named : draft.recurrenceType = .text kind.name)
    (days : draft.daysOfWeek = .list items) : FailsPresentably draft.toRule := by
  by_cases weekly : kind = .weekly
  · subst weekly
    rw [toRule_of_weekly named days]
    exact Rule.ofDraft_presentable writable fun _ => ⟨items, days⟩
  · rw [toRule_of_ne_weekly named weekly]
    exact Rule.ofDraft_presentable writable fun same => absurd same weekly

/-! ### Kinds -/

/-- A text names a kind, or is refused as the name of none. -/
theorem Value.asKind_text_cases (name : Text) :
    (∃ kind : Kind, name = .ofString kind.name) ∨
      (text name).asKind = .error (.unsupportedKind (.text name)) := by
  exact (asKind_cases (text name)).imp_left fun ⟨kind, named⟩ => ⟨kind, Value.text.inj named⟩

/-- All that a form gives can be shown. -/
def Service.RuleForm.IsWritable (form : RuleForm) : Prop := form.toDraft.IsWritable

/-- **A form makes a rule, or it is refused,** in words that can be written if the name of its kind
can be. -/
theorem Service.RuleForm.toRule_cases (form : RuleForm) (writable : form.IsWritable) :
    (isProperText form.recurrenceType = true ∧ ∃ rule, form.toDraft.toRule = .ok rule) ∨
      ∃ cause, form.toDraft.toRule = .error (.rule cause) ∧
        (cause.IsPresentable ↔ isProperText form.recurrenceType = true) := by
  rcases Value.asKind_text_cases form.recurrenceType with ⟨kind, named⟩ | unknown
  · have proper : isProperText form.recurrenceType = true := by
      rw [named]
      exact Json.isProperText_ofString _
    cases made : form.toDraft.toRule with
    | ok rule => exact Or.inl ⟨proper, rule, rfl⟩
    | error failure =>
      obtain ⟨cause, rfl, presentable⟩ :=
        Draft.toRule_presentable writable (congrArg Value.text named) rfl failure made
      exact Or.inr ⟨cause, rfl, iff_of_true presentable proper⟩
  · exact Or.inr ⟨_, Draft.toRule_of_unknown unknown,
      RuleError.isPresentable_unsupportedKind⟩

/-- What is asked with a form breaks off: the name of its kind cannot be written, or it makes a rule
that leads too far. -/
def Service.RuleForm.BreaksOff (form : RuleForm) (leadsTooFar : Rule → Prop) : Prop :=
  ¬ isProperText form.recurrenceType ∨
    ∃ rule, form.toDraft.toRule = .ok rule ∧ leadsTooFar rule

/-- **A form makes a rule or is refused,** and the refusal can be presented unless it breaks off. -/
theorem Service.RuleForm.breaksOff_cases (form : RuleForm) (writable : form.IsWritable)
    (leadsTooFar : Rule → Prop) :
    (∃ rule, form.toDraft.toRule = .ok rule ∧ (form.BreaksOff leadsTooFar ↔ leadsTooFar rule)) ∨
      ∃ cause, form.toDraft.toRule = .error (.rule cause) ∧
        (cause.IsPresentable ↔ ¬ form.BreaksOff leadsTooFar) := by
  unfold BreaksOff
  rcases form.toRule_cases writable with ⟨proper, rule, valid⟩ | ⟨cause, refused, presentable⟩
  · refine Or.inl ⟨rule, valid, ?_⟩
    rw [valid]
    constructor
    · rintro (improper | ⟨_, same, far⟩)
      · exact absurd proper improper
      · cases same
        exact far
    · exact fun far => Or.inr ⟨rule, rfl, far⟩
  · refine Or.inr ⟨cause, refused, presentable.trans ⟨?_, fun sound => ?_⟩⟩
    · rintro proper (improper | ⟨rule, valid, _⟩)
      · exact improper proper
      · rw [refused] at valid
        cases valid
    · exact Decidable.not_not.mp fun improper => sound (Or.inl improper)

/-! ### Switching -/

/-- **A valid rule may be switched to every known kind,** and stays the same otherwise. -/
theorem Draft.switched_cases (rule : Rule) (kind : Text) (anchor : Option Date) :
    (isProperText kind = true ∧ ∃ pattern,
      (do (← (ofRule rule).switchKind (.text kind) (.ofOption .date anchor)).toRule) =
        .ok { rule with pattern := pattern }) ∨
    ∃ cause, (Value.text kind).asKind = .error cause ∧
      (cause.IsPresentable ↔ isProperText kind = true) ∧
      (do (← (ofRule rule).switchKind (.text kind) (.ofOption .date anchor)).toRule :
        Except Error Rule) = .error (.rule cause) := by
  obtain ⟨date, anchored⟩ : ∃ date, (ofRule rule).IsAnchoredAt (.ofOption .date anchor) date := by
    cases anchor with
    | none => exact ⟨rule.startDate, .inr ⟨rfl, .inl (ofRule_startDate rule)⟩⟩
    | some date => exact ⟨date, .inl (.inl rfl)⟩
  rcases Value.asKind_text_cases kind with ⟨kind, rfl⟩ | unknown
  · refine Or.inl ⟨Json.isProperText_ofString _, .fitting date kind, ?_⟩
    rw [switchKind_eq anchored]
    show ((ofRule rule).withPattern (.fitting date kind)).toRule = _
    rw [ofRule, withPattern_withPattern]
    exact toRule_ofRule { rule with pattern := .fitting date kind }
  · refine Or.inr ⟨_, unknown, RuleError.isPresentable_unsupportedKind, ?_⟩
    rw [switchKind_of_unknown unknown]
    rfl

end Recurrence
