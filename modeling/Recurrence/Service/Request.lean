/-
**Requests and the forms they carry.**

A request has a method, a path, parameters and a body. The body is a document, or text that is still
to be read as one. The readers of this module take a form out of a document, field by field.

* `field`: a part that has to be there;
* `fieldOr`: a part with a default;
* `optionalField`: a part that may be missing or null.
-/
import Recurrence.Json.Encoding
import Recurrence.Json.Reader
import Recurrence.Rule.Draft
import Recurrence.Service.DateText
import Recurrence.Service.IntegerText
import Recurrence.Value.Display

namespace Recurrence.Service

/-- The body of a request. -/
inductive Body where
  | absent
  | document (content : Value)
  | text (content : String)

/-- A request. Parameters that are given beside the target take the place of those in it. -/
structure Request where
  method : String
  target : String
  parameters : Option (List (Text × Text))
  body : Body

/-! ### Readers -/

/-- Reads a value that stands at a place. -/
abbrev Reader (α : Type) := List Place → Value → Checked α

/-- A reader that looks at the value only. -/
def Reader.ofExcept {α : Type} (read : Value → Except Refusal α) : Reader α := fun place value =>
  .ofExcept place value (read value)

/-- Text of any length. -/
def Reader.text : Reader Text := .ofExcept fun value =>
  match value with
  | .text content => .ok content
  | _ => .error .stringType

/-- Text of characters, at least and at most so many of them. -/
def Reader.textOfLength (least most : Nat) : Reader Text := .ofExcept fun value =>
  match value with
  | .text content =>
    if content.chars?.isNone then .error .stringUnicode
    else if content.length < least then .error .stringTooShort
    else if most < content.length then .error .stringTooLong
    else .ok content
  | _ => .error .stringType

/-- An integer. -/
def Reader.integer : Reader Int := .ofExcept IntegerText.ofValue

/-- An integer that is not below a least one, nor above a greatest one if there is one. -/
def Reader.integerWithin (least : Int) (greatest : Option Int) : Reader Int :=
  .ofExcept fun value => do
    let number ← IntegerText.ofValue value
    if number < least then throw .greaterThanEqual
    if greatest.any (· < number) then throw .lessThanEqual
    return number

/-- A date. -/
def Reader.date : Reader Date := .ofExcept DateText.ofValue

/-- A list of integers. -/
def Reader.integers : Reader (List Int)
  | place, .list items =>
    Checked.items (fun number item => Reader.integer (place ++ [.index number]) item) 0 items
  | place, value => .refused [⟨place, .listType, value⟩]

/-- Something that may be null. -/
def Reader.orNull {α : Type} (read : Reader α) : Reader (Option α)
  | _, .null => .accepted none
  | place, value => some <$> read place value

/-! ### Named parts -/

/-- Named parts at a place, and what they are reported to be missing from. -/
structure Parts where
  place : List Place
  entries : List (Text × Value)
  whole : Value

/-- The place of a named part. -/
def Parts.under (parts : Parts) (name : String) : List Place := parts.place ++ [.name name]

/-- A named part that has to be there. -/
def field {α : Type} (parts : Parts) (name : String) (read : Reader α) : Checked α :=
  match entryNamed? name parts.entries with
  | some value => read (parts.under name) value
  | none => .refused [⟨parts.under name, .missing, parts.whole⟩]

/-- A named part with a default. -/
def fieldOr {α : Type} (otherwise : α) (parts : Parts) (name : String) (read : Reader α) :
    Checked α :=
  match entryNamed? name parts.entries with
  | some value => read (parts.under name) value
  | none => .accepted otherwise

/-- A named part that may be missing or null. -/
def optionalField {α : Type} (parts : Parts) (name : String) (read : Reader α) :
    Checked (Option α) :=
  fieldOr none parts name (.orNull read)

/-- A form with named parts. -/
def Reader.form {α : Type} (read : Parts → Checked α) : Reader α
  | place, .object entries => read ⟨place, entries, .object entries⟩
  | place, value => .refused [⟨place, .modelAttributesType, value⟩]

/-! ### Rules in requests -/

/-- A rule as a request gives it. Its numbers and dates are numbers and dates, but it may be no
valid rule. -/
structure RuleForm where
  recurrenceType : Text
  interval : Int
  startDate : Date
  endDate : Option Date
  daysOfWeek : List Int
  monthDay : Option Int
  monthWeek : Option Text
  monthWeekDay : Option Int
deriving DecidableEq

/-- The draft on the form of a rule. -/
def RuleForm.toDraft (rule : RuleForm) : Draft where
  recurrenceType := .text rule.recurrenceType
  startDate := .date rule.startDate
  interval := .int rule.interval
  endDate := .ofOption .date rule.endDate
  daysOfWeek := .list (rule.daysOfWeek.map .int)
  monthDay := .ofOption .int rule.monthDay
  monthWeek := .ofOption .text rule.monthWeek
  monthWeekDay := .ofOption .int rule.monthWeekDay

/-- The form of a rule. -/
def ruleForm : Reader RuleForm := .form fun parts =>
  RuleForm.mk
    <$> field parts Field.recurrenceType.name .text
    <*> fieldOr 1 parts Field.interval.name .integer
    <*> field parts Field.startDate.name .date
    <*> optionalField parts Field.endDate.name .date
    <*> fieldOr [] parts Field.daysOfWeek.name .integers
    <*> optionalField parts Field.monthDay.name .integer
    <*> optionalField parts Field.monthWeek.name .text
    <*> optionalField parts Field.monthWeekDay.name .integer

/-! ### Bodies -/

/-- Why the body of a request cannot be taken apart. -/
inductive BodyError where
  /-- The body is not JSON. -/
  | notJson
  /-- The body cannot be decoded, or is JSON that cannot be handled. -/
  | unreadable
deriving DecidableEq

/-- The limits for the documents in bodies. -/
def Body.limits : Json.Limits where
  digits := some maxDigits
  depth := some 960

/-- The document in a body, if there is one. A document with an integer that is too long to be read
is no more read than its text would be. -/
def Body.read : Body → Except BodyError (Option Value)
  | absent | document .null => .ok none
  | document content => if content.isWritable then .ok (some content) else .error .unreadable
  | text content =>
    if content = "" then .ok none
    else
      match Json.decode? content with
      | none => .error .unreadable
      | some decoded =>
        match Json.read limits decoded with
        | .ok value => .ok (some value)
        | .error .malformed => .error .notJson
        | .error .beyondLimits => .error .unreadable

/-- Takes a form out of the document in a body. -/
def fromBody {α : Type} (document : Option Value) (read : Reader α) : Checked α :=
  match document with
  | some content => read [.name "body"] content
  | none => .refused [⟨[.name "body"], .missing, .null⟩]

end Recurrence.Service
