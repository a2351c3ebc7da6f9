/-
**Forms that are read back.**

The rule of a draft is shown field by field, dates in their written form. What is shown of the form
of a request is read back as that form, so a rule is read back from its document.

* `DateText.read_iso`: a date is read back from its written form;
* `Reader.orNull_ofOption`, `Reader.integers_list`: so are parts that may be missing, and integers
  in a list;
* `ruleForm_draftDocument`: a form is read back from its document;
* `RuleForm.ofRule`: the form of a rule.
-/
import Recurrence.Proofs.Calendar.Written
import Recurrence.Service.Answer

namespace Recurrence.Service

/-! ### Parts of a form -/

/-- **A date is read back from its written form.** -/
theorem DateText.read_iso (date : Date) : read date.iso = .ok date := by
  have chars : (Text.ofString date.iso).chars? = some date.iso.toList := Text.chars?_ofChars _
  have civil : civil? date.iso.toList = some date.dayNumber := by
    have parts : 1 ≤ date.month ∧ date.month ≤ 12 ∧ 1 ≤ date.day ∧
        date.day ≤ monthLength date.year date.month :=
      ⟨date.one_le_month, date.month_le, date.one_le_day, date.day_le_monthLength⟩
    unfold civil?
    rw [date.isoParts?_iso, ← date.dayNumberOf_parts]
    exact if_pos parts
  have inCalendar : Date.ofDayNumber date.dayNumber = .ok date :=
    dif_pos ⟨date.one_le, date.le_last⟩
  unfold read
  simp only [chars, civil, Moment.date, if_true, inCalendar]
  rfl

namespace Reader

variable {α : Type}

theorem date_writtenDate (place : List Place) (date : Date) :
    Reader.date place (writtenDate date) = .accepted date := by
  unfold Reader.date ofExcept DateText.ofValue writtenDate
  simp only [DateText.read_iso]
  rfl

/-- Integers are read back from a list of them. -/
theorem integers_list (place : List Place) (numbers : List Int) :
    integers place (.list (numbers.map .int)) = .accepted numbers := by
  have items (first : Nat) : Checked.items
      (fun number item => Reader.integer (place ++ [.index number]) item) first
      (numbers.map Value.int) = .accepted numbers := by
    induction numbers generalizing first with
    | nil => rfl
    | cons number numbers ih =>
      rw [List.map_cons, Checked.items, ih]
      rfl
  exact items 0

end Reader

/-! ### Named parts -/

section Parts

variable {α : Type} {parts : Parts} {name : String} {value : Value}

theorem field_of_entry (given : entryNamed? name parts.entries = some value) (read : Reader α) :
    field parts name read = read (parts.under name) value := by
  unfold field
  rw [given]

theorem fieldOr_of_entry (given : entryNamed? name parts.entries = some value) (otherwise : α)
    (read : Reader α) : fieldOr otherwise parts name read = read (parts.under name) value := by
  unfold fieldOr
  rw [given]

/-- A part that may be missing is read back if the parts that are there are. -/
theorem optionalField_of_entry {read : Reader α} {write : α → Value} {content : Option α}
    (given : entryNamed? name parts.entries = some (.ofOption write content))
    (filled : ∀ content, write content ≠ .null)
    (back : ∀ place content, read place (write content) = .accepted content) :
    optionalField parts name read = .accepted content := by
  unfold optionalField
  rw [fieldOr_of_entry given]
  cases content with
  | none => rfl
  | some content =>
    show Reader.orNull read _ (write content) = _
    unfold Reader.orNull
    split
    · rename_i missing
      exact absurd missing (filled content)
    · rw [back]
      rfl

end Parts

/-! ### Forms -/

theorem writtenField_ofOption {α : Type} (write : α → Value) (content : Option α) :
    writtenField (.ofOption write content) =
      .ofOption (fun part => writtenField (write part)) content := by
  cases content <;> rfl

/-- The fields of a draft are the parts of its document. -/
theorem entry?_draftDocument (draft : Draft) (field : Field) :
    Value.entry? field.name (draftDocument draft) = some (writtenField (draft.get field)) := by
  cases field <;> rfl

/-- **A form is read back from what is shown of it.** -/
theorem ruleForm_draftDocument (form : RuleForm) (place : List Place) :
    ruleForm place (draftDocument form.toDraft) = .accepted form := by
  have shown := entry?_draftDocument form.toDraft
  obtain ⟨entries, document⟩ : ∃ entries, draftDocument form.toDraft = .object entries := ⟨_, rfl⟩
  rw [document] at shown ⊢
  generalize whole : (⟨place, entries, .object entries⟩ : Parts) = parts
  have given (field : Field) : entryNamed? field.name parts.entries =
      some (writtenField (form.toDraft.get field)) := whole ▸ shown field
  have kind : field parts Field.recurrenceType.name .text = .accepted form.recurrenceType :=
    field_of_entry (given .recurrenceType) Reader.text
  have interval : fieldOr 1 parts Field.interval.name .integer = .accepted form.interval :=
    fieldOr_of_entry (given .interval) 1 Reader.integer
  have startDate : field parts Field.startDate.name .date = .accepted form.startDate :=
    (field_of_entry (given .startDate) Reader.date).trans (Reader.date_writtenDate _ _)
  have endDate : optionalField parts Field.endDate.name .date = .accepted form.endDate :=
    optionalField_of_entry ((given .endDate).trans (congrArg some (writtenField_ofOption .date _)))
      (fun _ => Value.noConfusion) Reader.date_writtenDate
  have daysOfWeek : fieldOr [] parts Field.daysOfWeek.name .integers =
      .accepted form.daysOfWeek :=
    (fieldOr_of_entry (given .daysOfWeek) [] Reader.integers).trans (Reader.integers_list _ _)
  have monthDay : optionalField parts Field.monthDay.name .integer = .accepted form.monthDay :=
    optionalField_of_entry ((given .monthDay).trans (congrArg some (writtenField_ofOption .int _)))
      (fun _ => Value.noConfusion) fun _ _ => rfl
  have monthWeek : optionalField parts Field.monthWeek.name .text = .accepted form.monthWeek :=
    optionalField_of_entry
      ((given .monthWeek).trans (congrArg some (writtenField_ofOption .text _)))
      (fun _ => Value.noConfusion) fun _ _ => rfl
  have monthWeekDay :
      optionalField parts Field.monthWeekDay.name .integer = .accepted form.monthWeekDay :=
    optionalField_of_entry
      ((given .monthWeekDay).trans (congrArg some (writtenField_ofOption .int _)))
      (fun _ => Value.noConfusion) fun _ _ => rfl
  show RuleForm.mk <$> field ⟨place, entries, .object entries⟩ _ _ <*> _ <*> _ <*> _ <*> _ <*> _ <*>
    _ <*> _ = _
  rw [whole, kind, interval, startDate, endDate, daysOfWeek, monthDay, monthWeek, monthWeekDay]
  rfl

/-! ### Forms of rules -/

/-- The form of a rule, with the fields of its own kind filled in. -/
def RuleForm.ofRule (rule : Rule) : RuleForm where
  recurrenceType := rule.kind.name
  interval := rule.interval
  startDate := rule.startDate
  endDate := rule.endDate
  daysOfWeek := rule.pattern.weekdayNumbers
  monthDay := match rule.pattern with
    | .monthlyByDay day => some day.number
    | _ => none
  monthWeek := match rule.pattern with
    | .monthlyByWeekday ordinal _ => some ordinal.name
    | _ => none
  monthWeekDay := match rule.pattern with
    | .monthlyByWeekday _ weekday => some weekday.val
    | _ => none

/-- The draft on the form of a rule is the form of the rule. -/
theorem RuleForm.toDraft_ofRule (rule : Rule) : (ofRule rule).toDraft = Draft.ofRule rule := by
  obtain ⟨pattern⟩ := rule
  cases pattern with
  | weekly weekdays =>
    have numbers : (weekdays.toList.map fun weekday => (weekday.val : Int)).map Value.int =
        weekdays.toList.map .ofWeekday := List.map_map
    unfold toDraft ofRule Pattern.weekdayNumbers
    simp only [numbers]
    rfl
  | daily | monthlyByDay day | monthlyByWeekday ordinal weekday | yearly => rfl

end Recurrence.Service
