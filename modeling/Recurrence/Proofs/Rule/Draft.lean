/-
**A rule written down on a form is read back.**

Writing a rule down loses nothing: every field holds what the check of that field accepts, and the
checks together make the same rule again.

* `Value.asWeekdays_ofWeekday`: listed weekdays are the choice that they were listed from;
* `Pattern.ofDraft_withPattern`: the fields of a pattern are read as that pattern;
* `Draft.toRule_ofRule`: the form of a rule is the form of that rule only.
-/
import Recurrence.Rule.Validation

namespace Recurrence

/-- Items that are written and read one by one are read back if each of them is. -/
theorem mapM_map_ok {α β ε : Type} {write : α → β} {read : β → Except ε α} {items : List α}
    (back : ∀ item ∈ items, read (write item) = .ok item) :
    (items.map write).mapM read = .ok items := by
  induction items with
  | nil => rfl
  | cons item items ih =>
    rw [List.map_cons, List.mapM_cons, back item (List.mem_cons_self ..),
      ih fun other later => back other (List.mem_cons_of_mem item later)]
    rfl

theorem mapError_ok {α ε ε' : Type} (wrap : ε → ε') (content : α) :
    (Except.ok content : Except ε α).mapError wrap = .ok content :=
  rfl

theorem eq_ok_of_toOption {ε α : Type} {result : Except ε α} {content : α}
    (succeeded : result.toOption = some content) : result = .ok content := by
  cases result with
  | error cause => cases succeeded
  | ok other => exact congrArg Except.ok (Option.some_inj.mp succeeded)

/-! ### Single fields -/

namespace Value

theorem asKind_name (kind : Kind) : (text kind.name).asKind = .ok kind := by
  simp only [asKind, Text.string?_ofString, Option.bind_some, Kind.ofName?_name]

theorem asOrdinal_name (ordinal : Ordinal) : (text ordinal.name).asOrdinal = .ok ordinal := by
  simp only [asOrdinal, Text.string?_ofString, Option.bind_some, Ordinal.ofName?_name]

theorem asInterval_int {interval : Int} (valid : 1 ≤ interval) :
    (int interval).asInterval = .ok ⟨interval, valid⟩ :=
  dif_pos valid

theorem asMonthDay_number (day : MonthDay) : (int day.number).asMonthDay = .ok day :=
  dif_pos ⟨day.one_le, day.le_last⟩

theorem asWeekday_ofWeekday (weekday : Weekday) (field : Value) :
    (ofWeekday weekday).asWeekday field = .ok weekday := by
  have range : 0 ≤ (weekday.val : Int) ∧ (weekday.val : Int) ≤ 6 := by omega
  simp only [ofWeekday, asWeekday, dif_pos range, Int.toNat_natCast, Fin.eta]

theorem asEndDate_ofOption {start : Date} {endDate : Option Date}
    (valid : ∀ last ∈ endDate, start ≤ last) :
    (ofOption date endDate).asEndDate start = .ok ⟨endDate, valid⟩ := by
  cases endDate with
  | none => rfl
  | some last => exact dif_pos (valid last rfl)

/-- **Listed weekdays are the choice that they were listed from.** -/
theorem asWeekdays_ofWeekday (weekdays : WeekdaySet) :
    (list (weekdays.toList.map ofWeekday)).asWeekdays = .ok weekdays := by
  have read : (weekdays.toList.map ofWeekday).mapM
      (fun item => item.asWeekday (ofField .daysOfWeek)) = .ok weekdays.toList :=
    mapM_map_ok fun weekday _ => asWeekday_ofWeekday weekday _
  obtain ⟨first, others, shape⟩ := List.exists_cons_of_ne_nil weekdays.nonempty
  have again : WeekdaySet.ofList first others = weekdays := by
    refine WeekdaySet.ext_mem fun weekday => ?_
    rw [WeekdaySet.mem_ofList, ← shape]
    exact Iff.rfl
  have filled : (list (weekdays.toList.map ofWeekday)).isFilled = true := by
    rw [shape]
    rfl
  unfold asWeekdays
  simp only [filled, items, read, mapError_ok, bind, Except.bind]
  simp only [shape, again]
  rfl

end Value

/-! ### Rules -/

/-- The fields of a pattern are read as that pattern, whatever stands in the other fields. -/
theorem Pattern.ofDraft_withPattern (draft : Draft) (pattern : Pattern) :
    Pattern.ofDraft pattern.kind (draft.withPattern pattern) = .ok pattern := by
  cases pattern with
  | daily => rfl
  | weekly weekdays =>
    show (do return .weekly (← (Value.list (weekdays.toList.map .ofWeekday)).asWeekdays) :
      Except Error Pattern) = _
    rw [Value.asWeekdays_ofWeekday]
    rfl
  | monthlyByDay day =>
    show (do return .monthlyByDay (← (Value.int day.number).asMonthDay.mapError .rule) :
      Except Error Pattern) = _
    rw [Value.asMonthDay_number]
    rfl
  | monthlyByWeekday ordinal weekday =>
    show (do
      let ordinal ← (Value.text ordinal.name).asOrdinal.mapError .rule
      let weekday ← ((Value.ofWeekday weekday).asWeekday (.ofField .monthWeekDay)).mapError .rule
      return .monthlyByWeekday ordinal weekday : Except Error Pattern) = _
    rw [Value.asOrdinal_name, Value.asWeekday_ofWeekday]
    rfl
  | yearly => rfl

namespace Draft

variable (draft : Draft) (pattern : Pattern)

@[simp]
theorem withPattern_recurrenceType :
    (draft.withPattern pattern).recurrenceType = .text pattern.kind.name := by
  cases pattern <;> rfl

@[simp]
theorem withPattern_interval : (draft.withPattern pattern).interval = draft.interval := by
  cases pattern <;> rfl

@[simp]
theorem withPattern_startDate : (draft.withPattern pattern).startDate = draft.startDate := by
  cases pattern <;> rfl

@[simp]
theorem withPattern_endDate : (draft.withPattern pattern).endDate = draft.endDate := by
  cases pattern <;> rfl

/-- The weekdays are listed by number, if the pattern has any. -/
@[simp]
theorem withPattern_daysOfWeek :
    (draft.withPattern pattern).daysOfWeek = .list (pattern.weekdayNumbers.map .int) := by
  cases pattern with
  | weekly weekdays =>
    show Value.list (weekdays.toList.map .ofWeekday) = _
    rw [Pattern.weekdayNumbers, List.map_map]
    rfl
  | daily => rfl
  | monthlyByDay day => rfl
  | monthlyByWeekday ordinal weekday => rfl
  | yearly => rfl

end Draft

namespace Draft

theorem ofRule_recurrenceType (rule : Rule) :
    (ofRule rule).recurrenceType = .text rule.kind.name :=
  withPattern_recurrenceType ..

theorem ofRule_interval (rule : Rule) : (ofRule rule).interval = .int rule.interval :=
  withPattern_interval ..

theorem ofRule_startDate (rule : Rule) : (ofRule rule).startDate = .date rule.startDate :=
  withPattern_startDate ..

theorem ofRule_endDate (rule : Rule) : (ofRule rule).endDate = .ofOption .date rule.endDate :=
  withPattern_endDate ..

/-- The weekdays on the form of a rule are listed by number, if the rule has any. -/
theorem ofRule_daysOfWeek (rule : Rule) :
    (ofRule rule).daysOfWeek = .list (rule.pattern.weekdayNumbers.map .int) :=
  withPattern_daysOfWeek _ _

end Draft

/-- The form of a rule is read as that rule by the checks of its kind. -/
theorem Rule.ofDraft_ofRule (rule : Rule) :
    Rule.ofDraft rule.kind (Draft.ofRule rule) = .ok rule := by
  have pattern : Pattern.ofDraft rule.kind (Draft.ofRule rule) = .ok rule.pattern :=
    Pattern.ofDraft_withPattern _ rule.pattern
  have start : (Draft.ofRule rule).startDate.asStartDate = .ok rule.startDate := by
    rw [Draft.ofRule, Draft.withPattern_startDate]
    rfl
  unfold Rule.ofDraft
  rw [pattern, start]
  simp only [Draft.ofRule, Draft.withPattern_interval, Draft.withPattern_endDate,
    Value.asInterval_int rule.one_le_interval, mapError_ok, bind, Except.bind,
    Value.asEndDate_ofOption rule.start_le_end]
  rfl

/-- **The form of a rule is the form of that rule only.** -/
theorem Draft.toRule_ofRule (rule : Rule) : (Draft.ofRule rule).toRule = .ok rule := by
  have same := Rule.ofDraft_ofRule rule
  have kind : (Draft.ofRule rule).recurrenceType.asKind = .ok rule.kind := by
    rw [Draft.ofRule, Draft.withPattern_recurrenceType]
    exact Value.asKind_name rule.kind
  have days : (Draft.ofRule rule).daysOfWeek.items =
      .ok (rule.pattern.weekdayNumbers.map .int) := by
    rw [Draft.ofRule_daysOfWeek]
    rfl
  have listed : { Draft.ofRule rule with
      daysOfWeek := .list (rule.pattern.weekdayNumbers.map .int) } = Draft.ofRule rule := by
    rw [← Draft.ofRule_daysOfWeek]
  unfold Draft.toRule
  rw [kind, days]
  cases shape : rule.kind with
  | weekly =>
    rw [shape] at same
    simp only [mapError_ok, bind, Except.bind, listed]
    exact same
  | daily | monthlyByDay | monthlyByWeekday | yearly =>
    rw [shape] at same
    exact same

end Recurrence
