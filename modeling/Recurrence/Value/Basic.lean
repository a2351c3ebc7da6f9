/-
**Loosely typed values.**

A form may hold anything in any of its fields: nothing, a truth value, a number, text, a list, an
object with named entries, a date, or a date with a time. An object keeps the order of its entries.

* `Value.same_iff`: `Value.same` decides equality;
* `Value.isFilled`: what counts as filled in.
-/
import Recurrence.Calendar.DateTime
import Recurrence.Text.Basic

namespace Recurrence

/-- What a field of a form may hold. -/
inductive Value where
  | null
  | bool (value : Bool)
  | int (value : Int)
  | double (value : Double)
  | text (value : Text)
  | list (items : List Value)
  | object (entries : List (Text × Value))
  | date (value : Date)
  | dateTime (value : DateTime)

instance : Inhabited Value := ⟨.null⟩

namespace Value

/-! ### Equality -/

/-- Whether two values are the same, part by part. -/
def same : Value → Value → Bool
  | null, null => true
  | bool first, bool second => first == second
  | int first, int second => first == second
  | double first, double second => first == second
  | text first, text second => first == second
  | list first, list second => sameItems first second
  | object first, object second => sameEntries first second
  | date first, date second => first == second
  | dateTime first, dateTime second => first == second
  | _, _ => false
where
  /-- Whether two lists hold the same values. -/
  sameItems : List Value → List Value → Bool
    | [], [] => true
    | first :: firsts, second :: seconds => first.same second && sameItems firsts seconds
    | _, _ => false
  /-- Whether two objects hold the same entries in the same order. -/
  sameEntries : List (Text × Value) → List (Text × Value) → Bool
    | [], [] => true
    | (firstName, first) :: firsts, (secondName, second) :: seconds =>
      firstName == secondName && first.same second && sameEntries firsts seconds
    | _, _ => false

mutual

/-- Same values are equal values. -/
theorem same_iff : ∀ first second : Value, first.same second = true ↔ first = second
  | null, second => by cases second <;> simp [same]
  | bool _, second => by cases second <;> simp [same]
  | int _, second => by cases second <;> simp [same]
  | double _, second => by cases second <;> simp [same]
  | text _, second => by cases second <;> simp [same]
  | list firsts, second => by
    cases second <;> simp [same, sameItems_iff firsts]
  | object firsts, second => by
    cases second <;> simp [same, sameEntries_iff firsts]
  | date _, second => by cases second <;> simp [same]
  | dateTime _, second => by cases second <;> simp [same]

theorem sameItems_iff :
    ∀ firsts seconds : List Value, same.sameItems firsts seconds = true ↔ firsts = seconds
  | [], seconds => by cases seconds <;> simp [same.sameItems]
  | first :: firsts, seconds => by
    cases seconds <;> simp [same.sameItems, same_iff first, sameItems_iff firsts]

theorem sameEntries_iff :
    ∀ firsts seconds : List (Text × Value),
      same.sameEntries firsts seconds = true ↔ firsts = seconds
  | [], seconds => by cases seconds <;> simp [same.sameEntries]
  | (name, first) :: firsts, seconds => by
    cases seconds <;>
      simp [same.sameEntries, same_iff first, sameEntries_iff firsts, Prod.ext_iff]

end

instance : DecidableEq Value := fun first second =>
  decidable_of_iff (first.same second = true) (same_iff first second)

/-! ### Kinds of values -/

/-- The name of the type of a value, as messages show it. -/
def typeName : Value → String
  | null => "NoneType"
  | bool _ => "bool"
  | int _ => "int"
  | double _ => "float"
  | text _ => "str"
  | list _ => "list"
  | object _ => "dict"
  | date _ => "datetime.date"
  | dateTime _ => "datetime.datetime"

/-- Whether a field counts as filled in: nothing, false, zero and whatever is empty do not. -/
def isFilled : Value → Bool
  | null => false
  | bool value => value
  | int value => value != 0
  | double value => !value.isZero
  | text value => !value.codePoints.isEmpty
  | list items => !items.isEmpty
  | object entries => !entries.isEmpty
  | date _ | dateTime _ => true

/-- A number among the values. -/
def number? : Value → Option Number
  | bool value => some (.truth value)
  | int value => some (.int value)
  | double value => some (.double value)
  | _ => none

/-- A number as a value. -/
def ofNumber : Number → Value
  | .int value => int value
  | .truth value => bool value
  | .double value => double value

/-- A missing value is nothing. -/
def ofOption {α : Type} (encode : α → Value) : Option α → Value
  | none => null
  | some content => encode content

/-- The entry of an object with a name. -/
def entry? (name : String) : Value → Option Value
  | object entries => entryNamed? name entries
  | _ => none

end Value

end Recurrence
