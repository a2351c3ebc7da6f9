/-
**What a request gives can be shown.**

An integer of too many digits is read neither from the document in a body nor from text. So a
document has none of them in it, however deep its parts are nested, and all numbers of a call can be
written. Whatever a form is refused for can therefore be shown.

* `Json.isWritable_readValue`: a value that is read within the limits can be shown, with all of its
  items and entries;
* `Service.Body.isWritable_of_read`: so can the document in a body;
* `Service.IntegerText.isWritable_of_ofValue`: an integer read from such a value can be written;
* `Service.isWritable_of_ruleForm`: so can all that a form gives;
* `Service.Call.Accepted.isWritable`: so can the numbers of a call.
-/
import Mathlib.Data.List.TakeDrop
import Recurrence.Proofs.Calendar.Written
import Recurrence.Proofs.Service.Refusals
import Recurrence.Proofs.Service.Request
import Recurrence.Proofs.Text.Numeral

namespace Recurrence

/-! ### Digits -/

theorem digit_lt_of_isDigit {char : Char} (digit : char.isDigit = true) :
    char.toNat - '0'.toNat < 10 :=
  Text.decimalDigit?_lt (Text.digitAt?_of_isDigit digit)

/-- **A number of few ASCII digits can be written,** with either sign. -/
theorem isWritable_of_isDigit {chars : List Char} (digits : ∀ char ∈ chars, char.isDigit = true)
    (few : chars.length ≤ maxDigits) {number : Int}
    (magnitude : number.natAbs = Nat.ofDigitChars 10 chars 0) : IsWritable number := by
  rw [← Text.natural_digits] at magnitude
  refine Text.isWritable_of_digits magnitude (fun digit member => ?_) ?_
  · obtain ⟨char, inside, rfl⟩ := List.mem_map.mp member
    exact digit_lt_of_isDigit (digits char inside)
  · rw [List.length_map]
    exact few

theorem isWritable_one : IsWritable 1 := isWritable_of_fits64 (by decide)

theorem natAbs_signed (negative : Bool) (magnitude : Nat) :
    (if negative then -(magnitude : Int) else magnitude).natAbs = magnitude := by
  cases negative with
  | true => exact (Int.natAbs_neg _).trans (Int.natAbs_natCast magnitude)
  | false => exact Int.natAbs_natCast magnitude

/-- What is read as digits are digits. -/
theorem Text.isDigit_of_foldlM {chars : List Char} {start number : Nat}
    (read : chars.foldlM (fun number char => (digit? char).map (10 * number + ·)) start =
      some number) : ∀ char ∈ chars, char.isDigit = true := by
  induction chars generalizing start with
  | nil => exact List.forall_mem_nil _
  | cons char chars ih =>
    rw [List.foldlM_cons] at read
    obtain ⟨next, found, later⟩ := Option.bind_eq_some_iff.mp read
    obtain ⟨digit, found, _⟩ := Option.map_eq_some_iff.mp found
    refine List.forall_mem_cons.mpr ⟨?_, ih later⟩
    unfold digit? at found
    split at found
    · assumption
    · cases found

theorem Text.isDigit_of_digits? {chars : List Char} {number : Nat}
    (read : digits? chars = some number) :
    (∀ char ∈ chars, char.isDigit = true) ∧ number = Nat.ofDigitChars 10 chars 0 := by
  cases chars with
  | nil => cases read
  | cons char others =>
    have digits := isDigit_of_foldlM read
    have denoted := digits?_eq_some (List.cons_ne_nil char others) digits
    exact ⟨digits, Option.some_inj.mp (read.symm.trans denoted)⟩

/-! ### Documents -/

namespace Json

variable {limits : Limits}

theorem isDigit_of_mem_spanDigits {codePoints : List CodePoint} :
    ∀ digit ∈ (spanDigits codePoints).1, digit.isDigit = true := by
  intro digit member
  unfold spanDigits at member
  rw [List.span_eq_takeWhile_dropWhile] at member
  obtain ⟨codePoint, taken, read⟩ := List.mem_filterMap.mp member
  have passes := List.mem_takeWhile_imp taken
  cases codePoint with
  | char other =>
    cases read
    exact passes
  | surrogate offset => cases read

theorem isDigit_of_readWhole {codePoints rest : List CodePoint} {digits : List Char}
    (read : readWhole codePoints = .ok (digits, rest)) :
    ∀ digit ∈ digits, digit.isDigit = true := by
  have spanned : ∀ digit ∈ (spanDigits codePoints).1, digit.isDigit = true :=
    isDigit_of_mem_spanDigits
  unfold readWhole at read
  split at read
  · cases read
    exact List.forall_mem_singleton.mpr rfl
  · cases read
  · rename_i found
    cases read
    rw [found] at spanned
    exact spanned

/-- **A number that is read can be shown.** -/
theorem isWritable_readNumber (limited : limits.digits = some maxDigits) {negative : Bool}
    {codePoints rest : List CodePoint} {value : Value}
    (read : readNumber limits negative codePoints = .ok (value, rest)) :
    value.isWritable = true := by
  unfold readNumber at read
  obtain ⟨⟨whole, afterWhole⟩, digits, read⟩ := bind_eq_ok_iff.mp read
  simp only [] at read
  split at read
  · simp only [limited, Option.any_some] at read
    split at read
    · cases read
    · rename_i few
      cases read
      refine Value.isWritable_int.mpr (isWritable_of_isDigit (isDigit_of_readWhole digits) ?_
        (natAbs_signed negative (natural whole)))
      exact Nat.not_lt.mp fun many => few (decide_eq_true many)
  · cases read
    rfl

theorem isWritable_of_readWord? {codePoints rest : List CodePoint} {value : Value}
    (read : readWord? codePoints = some (value, rest)) : value.isWritable = true := by
  obtain ⟨⟨word, other⟩, member, found⟩ := List.exists_of_findSome?_eq_some read
  have all : ∀ entry ∈ words, entry.2.isWritable = true := by decide
  simp only [] at found
  split at found
  · cases found
    exact all _ member
  · cases found

/-- Entries can be shown if those before and the one that is set can be. -/
theorem isWritable_setEntry {name : Text} {value : Value} (writable : value.isWritable = true)
    {entries : List (Text × Value)} (others : ∀ entry ∈ entries, entry.2.isWritable = true) :
    ∀ entry ∈ setEntry name value entries, entry.2.isWritable = true := by
  induction entries with
  | nil => exact List.forall_mem_singleton.mpr writable
  | cons first entries ih =>
    obtain ⟨known, old⟩ := first
    obtain ⟨own, later⟩ := List.forall_mem_cons.mp others
    unfold setEntry
    split
    · exact List.forall_mem_cons.mpr ⟨writable, later⟩
    · exact List.forall_mem_cons.mpr ⟨own, ih later⟩

/-- So can entries that are set one after the other. -/
theorem isWritable_setEntries {later known : List (Text × Value)}
    (writable : ∀ entry ∈ later, entry.2.isWritable = true)
    (before : ∀ entry ∈ known, entry.2.isWritable = true) :
    ∀ entry ∈ later.foldl (fun known next => setEntry next.1 next.2 known) known,
      entry.2.isWritable = true := by
  induction later generalizing known with
  | nil => exact before
  | cons next later ih =>
    obtain ⟨own, rest⟩ := List.forall_mem_cons.mp writable
    exact ih rest (isWritable_setEntry own before)

theorem isWritable_objectOf {reversed : List (Text × Value)}
    (writable : ∀ entry ∈ reversed, entry.2.isWritable = true) :
    (objectOf reversed).isWritable = true := by
  have ordered : ∀ entry ∈ reversed.reverse, entry.2.isWritable = true :=
    fun entry inside => writable entry (List.mem_reverse.mp inside)
  unfold objectOf
  simp only []
  split
  · exact Value.isWritable_object.mpr ordered
  · exact Value.isWritable_object.mpr (isWritable_setEntries ordered (List.forall_mem_nil _))

mutual

/-- **A value that is read can be shown.** -/
theorem isWritable_readValue (limited : limits.digits = some maxDigits) :
    ∀ (steps : Nat) {depth : Nat} {codePoints rest : List CodePoint} {value : Value},
      readValue limits depth steps codePoints = .ok (value, rest) → value.isWritable = true
  | 0, _, _, _, _, read => by cases read
  | steps + 1, depth, codePoints, rest, value, read => by
    unfold readValue at read
    simp only [] at read
    split at read
    · rename_i word
      cases read
      exact isWritable_of_readWord? word
    · split at read
      · exact isWritable_readNumber limited read
      · cases text : readText [] _ with
        | error cause =>
          rw [text] at read
          cases read
        | ok reading =>
          rw [text] at read
          cases read
          rfl
      · split at read
        · cases read
        · split at read
          · cases read
            rfl
          · exact isWritable_readItems limited steps (List.forall_mem_nil _) read
      · split at read
        · cases read
        · split at read
          · cases read
            rfl
          · exact isWritable_readEntries limited steps (List.forall_mem_nil _) read
      · exact isWritable_readNumber limited read

theorem isWritable_readItems (limited : limits.digits = some maxDigits) :
    ∀ (steps : Nat) {depth : Nat} {reversed : List Value} {codePoints rest : List CodePoint}
      {value : Value}, (∀ item ∈ reversed, item.isWritable = true) →
      readItems limits depth steps reversed codePoints = .ok (value, rest) →
        value.isWritable = true
  | 0, _, _, _, _, _, _, read => by cases read
  | steps + 1, depth, reversed, codePoints, rest, value, before, read => by
    unfold readItems at read
    split at read
    · cases read
    · rename_i first
      have items : ∀ item ∈ _ :: reversed, item.isWritable = true :=
        List.forall_mem_cons.mpr ⟨isWritable_readValue limited steps first, before⟩
      split at read
      · exact isWritable_readItems limited steps items read
      · cases read
        exact Value.isWritable_list.mpr fun item inside => items item (List.mem_reverse.mp inside)
      · cases read

theorem isWritable_readEntries (limited : limits.digits = some maxDigits) :
    ∀ (steps : Nat) {depth : Nat} {reversed : List (Text × Value)}
      {codePoints rest : List CodePoint} {value : Value},
      (∀ entry ∈ reversed, entry.2.isWritable = true) →
      readEntries limits depth steps reversed codePoints = .ok (value, rest) →
        value.isWritable = true
  | 0, _, _, _, _, _, _, read => by cases read
  | steps + 1, depth, reversed, codePoints, rest, value, before, read => by
    unfold readEntries at read
    split at read
    · split at read
      · cases read
      · rename_i name _ _
        split at read
        · split at read
          · cases read
          · rename_i first
            have entries : ∀ entry ∈ (name, _) :: reversed, entry.2.isWritable = true :=
              List.forall_mem_cons.mpr ⟨isWritable_readValue limited steps first, before⟩
            split at read
            · exact isWritable_readEntries limited steps entries read
            · cases read
              exact isWritable_objectOf entries
            · cases read
        · cases read
    · cases read

end

/-- What is read from a whole text can be shown. -/
theorem isWritable_of_read (limited : limits.digits = some maxDigits) {text : Text} {value : Value}
    (read : Json.read limits text = .ok value) : value.isWritable = true := by
  unfold Json.read at read
  obtain ⟨⟨content, rest⟩, found, read⟩ := bind_eq_ok_iff.mp read
  simp only [] at read
  split at read
  · cases read
    exact isWritable_readValue limited _ found
  · cases read

end Json

namespace Service

/-! ### Bodies -/

/-- A document that can be shown is read as it stands. -/
theorem Body.read_document {content : Value} (filled : content ≠ .null)
    (writable : content.isWritable = true) : (document content).read = .ok (some content) := by
  unfold read
  split
  · contradiction
  · rename_i same
    cases same
    exact absurd rfl filled
  · rename_i same
    cases same
    exact if_pos writable
  · contradiction

/-- **The document in a body can be shown.** -/
theorem Body.isWritable_of_read {body : Body} {content : Value}
    (found : body.read = .ok (some content)) : content.isWritable = true := by
  unfold read at found
  split at found
  · cases found
  · cases found
  · split at found
    · rename_i writable
      cases found
      exact writable
    · cases found
  · split at found
    · cases found
    · split at found
      · cases found
      · split at found
        · rename_i decoded
          cases found
          exact Json.isWritable_of_read rfl decoded
        · cases found
        · cases found

/-! ### Integers -/

namespace IntegerText

theorem isWritable_of_signed? {chars : List Char} {number : Int}
    (found : signed? chars = some number) : IsWritable number := by
  unfold signed? at found
  cases split : takeMinus chars with
  | mk negative digits =>
    rw [split] at found
    simp only [] at found
    split at found
    · cases found
    · rename_i few
      obtain ⟨_, whole, rfl⟩ := Option.map_eq_some_iff.mp found
      obtain ⟨value, plain, same⟩ := Option.bind_eq_some_iff.mp whole
      cases same
      have denoted : Text.digits? digits = some value := by
        unfold plain? at plain
        split at plain
        · cases plain
          rfl
        · cases plain
        · exact plain
      obtain ⟨ascii, magnitude⟩ := Text.isDigit_of_digits? denoted
      exact isWritable_of_isDigit ascii (Nat.not_lt.mp few)
        ((natAbs_signed negative value).trans magnitude)

theorem isWritable_of_read {text : Text} {number : Int} (found : read text = .ok number) :
    IsWritable number := by
  unfold read at found
  split at found
  · cases found
  · split at found
    · rename_i plain
      cases found
      exact isWritable_of_signed? plain
    · split at found
      · cases found
      · split at found
        · rename_i cleaned
          cases found
          obtain ⟨_, _, plain⟩ := Option.bind_eq_some_iff.mp cleaned
          exact isWritable_of_signed? plain
        · cases found

/-- **An integer that is read from what can be shown can be written.** -/
theorem isWritable_of_ofValue {value : Value} (writable : value.isWritable = true) {number : Int}
    (found : ofValue value = .ok number) : IsWritable number := by
  cases value with
  | int value =>
    cases found
    exact Value.isWritable_int.mp writable
  | bool value =>
    cases found
    cases value <;> exact isWritable_of_fits64 (by decide)
  | double value =>
    have fits : Fits64 number := by
      unfold ofValue ofDouble at found
      simp only [] at found
      split at found
      · split at found
        · cases found
        · split at found
          · rename_i both
            cases found
            exact both.1
          · cases found
      · cases found
    exact isWritable_of_fits64 fits
  | text value => exact isWritable_of_read found
  | null | list | object | date | dateTime => cases found

end IntegerText

/-! ### Forms -/

section Parts

variable {place : List Place} {value : Value} (writable : value.isWritable = true)
include writable

theorem isWritable_of_integer {number : Int}
    (read : Reader.integer place value = .accepted number) : IsWritable number :=
  IntegerText.isWritable_of_ofValue writable (Checked.ofExcept_accepted_iff.mp read)

theorem isWritable_of_integers {numbers : List Int}
    (read : Reader.integers place value = .accepted numbers) :
    ∀ number ∈ numbers, IsWritable number := by
  unfold Reader.integers at read
  split at read
  · intro number inside
    obtain ⟨_, item, member, found⟩ := Checked.items_accepted read number inside
    exact isWritable_of_integer (Value.isWritable_list.mp writable item member) found
  · cases read

end Parts

section Entries

variable {parts : Parts} (writable : ∀ entry ∈ parts.entries, entry.2.isWritable = true)
include writable

/-- An optional integer can be shown. -/
theorem isWritable_optionalInteger {name : String} {number : Option Int}
    (accepted : optionalField parts name .integer = .accepted number) :
    (Value.ofOption .int number).isWritable = true := by
  cases number with
  | none => rfl
  | some number =>
    obtain ⟨_, entry, inside, read⟩ := optionalField_accepted accepted number rfl
    exact Value.isWritable_int.mpr (isWritable_of_integer (writable entry inside) read)

/-- A whole number within a range can be written. -/
theorem isWritable_of_within {name : String} {least : Int} {greatest : Option Int} {number : Int}
    (accepted : field parts name (.integerWithin least greatest) = .accepted number) :
    IsWritable number := by
  obtain ⟨_, entry, inside, read⟩ := field_accepted accepted
  exact IntegerText.isWritable_of_ofValue (writable entry inside)
    (Reader.integerWithin_accepted read).1

end Entries

/-- **All that a form gives can be shown.** -/
theorem isWritable_of_ruleForm {place : List Place} {value : Value}
    (writable : value.isWritable = true) {form : RuleForm}
    (read : ruleForm place value = .accepted form) : form.IsWritable := by
  unfold ruleForm Reader.form at read
  split at read
  · rename_i entries
    have each : ∀ entry ∈ entries, entry.2.isWritable = true := Value.isWritable_object.mp writable
    obtain ⟨_, _, upToWeek, weekday, rfl⟩ := Checked.accepted_seq_iff.mp read
    obtain ⟨_, week, upToDay, _, rfl⟩ := Checked.accepted_seq_iff.mp upToWeek
    obtain ⟨_, _, upToDays, monthDay, rfl⟩ := Checked.accepted_seq_iff.mp upToDay
    obtain ⟨_, _, upToEnd, days, rfl⟩ := Checked.accepted_seq_iff.mp upToDays
    obtain ⟨_, endDate, upToStart, _, rfl⟩ := Checked.accepted_seq_iff.mp upToEnd
    obtain ⟨_, _, upToInterval, _, rfl⟩ := Checked.accepted_seq_iff.mp upToStart
    obtain ⟨_, _, kind, interval, rfl⟩ := Checked.accepted_seq_iff.mp upToInterval
    obtain ⟨_, _, rfl⟩ := Checked.accepted_map_iff.mp kind
    intro field
    cases field with
    | recurrenceType | startDate => rfl
    | interval =>
      refine Value.isWritable_int.mpr ?_
      rcases fieldOr_accepted interval with rfl | ⟨_, entry, inside, read⟩
      · exact isWritable_one
      · exact isWritable_of_integer (each entry inside) read
    | endDate => cases endDate <;> rfl
    | daysOfWeek =>
      refine Value.isWritable_list.mpr fun item listed => ?_
      obtain ⟨number, chosen, rfl⟩ := List.mem_map.mp listed
      refine Value.isWritable_int.mpr ?_
      rcases fieldOr_accepted days with rfl | ⟨_, entry, inside, read⟩
      · cases chosen
      · exact isWritable_of_integers (each entry inside) read number chosen
    | monthDay => exact isWritable_optionalInteger each monthDay
    | monthWeek => cases week <;> rfl
    | monthWeekDay => exact isWritable_optionalInteger each weekday
  · cases read

/-! ### Calls -/

/-- All numbers of a call that a message may show can be written. -/
def Call.IsWritable : Call → Prop
  | validate form | preview form .. | calendar form .. | createDraft _ form => form.IsWritable
  | updateDraft _ expected form => Recurrence.IsWritable expected ∧ form.IsWritable
  | switchDraft _ expected .. => Recurrence.IsWritable expected
  | nthWeekday _ _ _ weekday => Recurrence.IsWritable weekday
  | health | defaults .. | listDrafts | getDraft _ | previewDraft .. => True

/-- **The numbers of a call can be written,** if the document and the parameters that it is read
from can be shown. -/
theorem Call.Accepted.isWritable {settings : Settings} {query : Parts} {document : Option Value}
    {call : Call} (accepted : call.Accepted settings query document)
    (given : ∀ content ∈ document, content.isWritable = true)
    (asked : ∀ entry ∈ query.entries, entry.2.isWritable = true) : call.IsWritable := by
  have each {parts : Parts} (body : document = some (.object parts.entries)) :
      ∀ entry ∈ parts.entries, entry.2.isWritable = true :=
    Value.isWritable_object.mp (given _ body)
  have rule {parts : Parts} (body : document = some (.object parts.entries)) {form : RuleForm}
      (accepted : field parts "rule" ruleForm = .accepted form) : form.IsWritable := by
    obtain ⟨_, entry, inside, read⟩ := field_accepted accepted
    exact isWritable_of_ruleForm (each body entry inside) read
  cases accepted with
  | validate read =>
    unfold fromBody at read
    split at read
    · exact isWritable_of_ruleForm (given _ rfl) read
    · cases read
  | preview body read => exact rule body read
  | calendar body read => exact rule body read
  | createDraft body _ read => exact rule body read
  | updateDraft id body version read =>
    exact ⟨isWritable_of_within (each body) version, rule body read⟩
  | switchDraft id body version => exact isWritable_of_within (each body) version
  | nthWeekday _ _ _ weekdays =>
    obtain ⟨_, entry, inside, read⟩ := field_accepted weekdays
    exact isWritable_of_integer (asked entry inside) read
  | health | defaults | listDrafts | getDraft | previewDraft => trivial

/-- Parameters are texts, which can be shown. -/
theorem Endpoint.isWritable_queryParts (parameters : List (Text × Text)) :
    ∀ entry ∈ (queryParts parameters).entries, entry.2.isWritable = true := by
  intro entry inside
  obtain ⟨parameter, _, rfl⟩ := List.mem_map.mp inside
  rfl

end Service

end Recurrence
