/-
**Documents that can be written.**

A document can be written in JSON proper unless a text in it has halves of surrogate pairs. Those
of rules, dates, months and stored drafts can: their names are known ones, or stored. Messages show
text between quotes with such halves escaped; only the name of an unknown kind of rule is shown as
it was given.

* `Json.isProper_list`, `Json.isProper_object`: a document can be written if its parts can be;
* `Value.isProperText_display`: what a message shows of a value can be written;
* `RuleError.isPresentable_of_field`: why a rule is refused can be written, unless it is for its
  kind;
* `Service.isProper_draftDocument`, `Service.isProper_monthDocument`, `Entry.isProper_document`:
  so can rules, months and stored drafts.
-/
import Recurrence.Json.Writer
import Recurrence.Proofs.Rule.Draft
import Recurrence.Proofs.Store.Catalog
import Recurrence.Proofs.Store.Encoding
import Recurrence.Service.Answer

namespace Recurrence

/-! ### Texts -/

namespace Json

@[simp]
theorem isProperText_ofChars (chars : List Char) : isProperText (.ofChars chars) = true := by
  simp [isProperText, Text.ofChars, CodePoint.char?]

@[simp]
theorem isProperText_ofString (string : String) : isProperText (.ofString string) = true :=
  isProperText_ofChars _

@[simp]
theorem isProperText_append (first second : Text) :
    isProperText (first ++ second) = (isProperText first && isProperText second) :=
  List.all_append

theorem isProperText_join {separator : Text} {parts : List Text}
    (between : isProperText separator = true) (proper : ∀ part ∈ parts, isProperText part = true) :
    isProperText (.join separator parts) = true := by
  induction parts with
  | nil => rfl
  | cons part parts ih =>
    have first := proper part List.mem_cons_self
    have rest := ih fun other later => proper other (List.mem_cons_of_mem part later)
    cases parts with
    | nil => simpa [Text.join, isProperText] using first
    | cons next parts =>
      have split : Text.join separator (part :: next :: parts) =
          part ++ separator ++ Text.join separator (next :: parts) :=
        Text.ext List.intercalate_cons_cons
      rw [split, isProperText_append, isProperText_append, first, between, rest]
      rfl

/-! ### Documents -/

/-- A list can be written if its items can be. -/
theorem isProper_list {items : List Value} :
    isProper (.list items) = true ↔ ∀ item ∈ items, isProper item = true := by
  show isProper.properItems items = true ↔ _
  induction items with
  | nil => simp [isProper.properItems]
  | cons item items ih => simp [isProper.properItems, ih]

/-- An object can be written if the names and the contents of its entries can be. -/
theorem isProper_object {entries : List (Text × Value)} :
    isProper (.object entries) = true ↔
      ∀ entry ∈ entries, isProperText entry.1 = true ∧ isProper entry.2 = true := by
  show isProper.properEntries entries = true ↔ _
  induction entries with
  | nil => simp [isProper.properEntries]
  | cons entry entries ih => simp [isProper.properEntries, ih, and_assoc]

end Json

open Json (isProper isProperText)

/-! ### Messages -/

namespace Value

mutual

/-- **What a message shows of a value can be written.** -/
theorem isProperText_display : ∀ value : Value, isProperText value.display = true
  | null => rfl
  | bool true => rfl
  | bool false => rfl
  | int value => Json.isProperText_ofString _
  | double value => Json.isProperText_ofString _
  | text value => Json.isProperText_ofChars _
  | list items => by
    have parts := Json.isProperText_join (Json.isProperText_ofString ", ")
      (isProperText_displayItems items)
    rw [display, Json.isProperText_append, Json.isProperText_append, Text.listing, parts]
    rfl
  | object entries => by
    have parts := Json.isProperText_join (Json.isProperText_ofString ", ")
      (isProperText_displayEntries entries)
    rw [display, Json.isProperText_append, Json.isProperText_append, Text.listing, parts]
    rfl
  | date value => by simp [display, call]
  | dateTime value => by simp [display, call]

theorem isProperText_displayItems :
    ∀ items : List Value, ∀ part ∈ display.displayItems items, isProperText part = true
  | [], _, member => by cases member
  | item :: items, part, member => by
    rcases List.mem_cons.mp member with rfl | later
    · exact isProperText_display item
    · exact isProperText_displayItems items part later

theorem isProperText_displayEntries :
    ∀ entries : List (Text × Value), ∀ part ∈ display.displayEntries entries,
      isProperText part = true
  | [], _, member => by cases member
  | (name, item) :: entries, part, member => by
    rcases List.mem_cons.mp member with rfl | later
    · rw [Json.isProperText_append, Json.isProperText_append, isProperText_display item]
      simp [Text.quoted]
    · exact isProperText_displayEntries entries part later

end

end Value

/-- Fields are told apart by their names. -/
theorem Value.ofField_inj {field other : Field} :
    ofField field = ofField other ↔ field = other := by
  refine ⟨fun same => ?_, congrArg ofField⟩
  have names := Text.ofString_inj.mp (Value.text.inj same)
  exact Option.some_inj.mp (by rw [← Field.find?_name, ← Field.find?_name, names])

namespace RuleError

/-- The answer that refuses a rule for a cause can be written: what is refused can be shown, and so
can the field and the message. -/
structure IsPresentable (cause : RuleError) : Prop where
  shown : cause ≠ .unwritable
  field : isProper cause.field = true
  message : isProperText cause.message = true

/-- **A cause that is reported at a field can be presented,** unless the field is that of the
kind. -/
theorem isPresentable_of_field {cause : RuleError} {field : Field}
    (named : cause.field = .ofField field) (other : field ≠ .recurrenceType) :
    cause.IsPresentable where
  shown same := by
    rw [same] at named
    cases named
  field := by
    rw [named]
    exact Json.isProperText_ofString _
  message := by
    cases cause with
    | unsupportedKind kind => exact absurd (Value.ofField_inj.mp named).symm other
    | invalidInterval | invalidWeekday | invalidMonthDay | unsupportedOrdinal | startNoDate
    | endNoDate => simp [message, Value.isProperText_display]
    | noWeekdays | unwritable => exact Json.isProperText_ofString _
    | endBeforeStart last start => simp [message]

/-- An unknown kind that is a text can be presented if the text can be written. -/
theorem isPresentable_unsupportedKind {kind : Text} :
    (unsupportedKind (.text kind)).IsPresentable ↔ isProperText kind = true := by
  refine ⟨fun presentable => ?_, fun proper => ⟨nofun, Json.isProperText_ofString _, ?_⟩⟩
  · simpa [message, Value.plain] using presentable.message
  · simpa [message, Value.plain] using proper

end RuleError

/-! ### Documents of the service -/

namespace Service

theorem isProper_writtenDate (date : Date) : isProper (writtenDate date) = true :=
  Json.isProperText_ofString _

/-- A rule on a form can be written. -/
theorem isProper_draftDocument (rule : Rule) : isProper (draftDocument (.ofRule rule)) = true := by
  have fields (field : Field) : isProper (writtenField ((Draft.ofRule rule).get field)) = true := by
    cases field with
    | recurrenceType =>
      rw [Draft.get, Draft.ofRule_recurrenceType]
      exact Json.isProperText_ofString _
    | interval =>
      rw [Draft.get, Draft.ofRule_interval]
      rfl
    | startDate =>
      rw [Draft.get, Draft.ofRule_startDate]
      exact isProper_writtenDate _
    | endDate =>
      rw [Draft.get, Draft.ofRule_endDate]
      cases rule.endDate with
      | none => rfl
      | some last => exact isProper_writtenDate last
    | daysOfWeek =>
      rw [Draft.get, Draft.ofRule_daysOfWeek]
      refine Json.isProper_list.mpr fun item member => ?_
      obtain ⟨number, _, rfl⟩ := List.mem_map.mp member
      rfl
    | monthDay | monthWeek | monthWeekDay =>
      obtain ⟨pattern⟩ := rule
      cases pattern <;> first | rfl | exact Json.isProperText_ofString _
  refine Json.isProper_object.mpr fun entry member => ?_
  obtain ⟨field, _, rfl⟩ := List.mem_map.mp member
  exact ⟨Json.isProperText_ofString _, fields field⟩

/-- The fields of a pattern can be written. -/
theorem isProper_fields (pattern : Pattern) :
    isProper (.object (pattern.fields.map fun (field, value) =>
      (Text.ofString field.name, value))) = true := by
  refine Json.isProper_object.mpr fun entry member => ?_
  obtain ⟨⟨field, value⟩, own, rfl⟩ := List.mem_map.mp member
  refine ⟨Json.isProperText_ofString _, ?_⟩
  cases pattern with
  | daily | yearly => cases own
  | weekly weekdays =>
    cases List.mem_singleton.mp own
    refine Json.isProper_list.mpr fun item chosen => ?_
    obtain ⟨weekday, _, rfl⟩ := List.mem_map.mp chosen
    rfl
  | monthlyByDay day =>
    cases List.mem_singleton.mp own
    rfl
  | monthlyByWeekday ordinal weekday =>
    rcases List.mem_cons.mp own with same | later
    · cases same
      exact Json.isProperText_ofString _
    · cases List.mem_singleton.mp later
      rfl

theorem isProper_datesDocument (dates : List Date) : isProper (datesDocument dates) = true := by
  refine Json.isProper_list.mpr fun item member => ?_
  obtain ⟨date, _, rfl⟩ := List.mem_map.mp member
  exact isProper_writtenDate date

/-- A month can be written. -/
theorem isProper_monthDocument (view : MonthView) : isProper (monthDocument view) = true := by
  have weeks : isProper (.list (view.weeks.map fun week => .list (week.map fun cell =>
      .object [("date", writtenDate cell.date), ("in_month", .bool cell.inMonth),
        ("selected", .bool cell.selected)]))) = true := by
    refine Json.isProper_list.mpr fun item member => ?_
    obtain ⟨week, _, rfl⟩ := List.mem_map.mp member
    refine Json.isProper_list.mpr fun item member => ?_
    obtain ⟨cell, _, rfl⟩ := List.mem_map.mp member
    simp only [Json.isProper_object, List.forall_mem_cons, isProper_writtenDate,
      Json.isProperText_ofString, true_and]
    exact ⟨rfl, rfl, nofun⟩
  simp only [monthDocument, Json.isProper_object, List.forall_mem_cons, weeks,
    Json.isProperText_ofString, true_and, and_true]
  exact ⟨rfl, rfl, rfl, nofun⟩

end Service

/-- A stored draft as a document. -/
def Entry.document (entry : Entry) (id : Int) : Value :=
  .object [("id", .int id), ("name", .text entry.name), ("version", .int entry.version),
    ("rule", Service.draftDocument (.ofRule entry.rule))]

/-- **The record of an entry is shown as the rule that it holds.** -/
theorem Service.recordDocument_record (entry : Entry) (id : Int) :
    recordDocument (entry.record id) = .ok (entry.document id) := by
  unfold recordDocument Record.toDraft
  rw [Entry.record_columns, Columns.toDraft_ofRule]
  rfl

theorem Entry.isProper_document (entry : Entry) (id : Int) :
    isProper (entry.document id) = true := by
  simp only [document, Json.isProper_object, List.forall_mem_cons, Json.isProperText_ofString,
    Service.isProper_draftDocument, true_and, and_true]
  exact ⟨rfl, Json.isProperText_ofString _, rfl, nofun⟩

end Recurrence
