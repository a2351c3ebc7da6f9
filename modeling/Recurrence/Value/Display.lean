/-
**How messages show values.**

Text stands between quotes, nothing and the truth values have names, lists and objects show their
parts, and dates show their numbers. `Value.plain` leaves the quotes off a text. A value with an
integer of too many digits anywhere in it cannot be shown at all (`Value.isWritable`). How deep
lists may stand within each other is not limited here: that is up to the stack of whoever shows
them.

* `Value.isWritable_list`, `Value.isWritable_object`: what has parts can be shown if each part can.
-/
import Recurrence.Value.Basic
import Recurrence.Text.Quoted

namespace Recurrence

/-- A date as its numbers. -/
def Date.numbers (date : Date) : List Int := [date.year, date.month, date.day]

/-- A date with a time as its numbers. Microseconds are left out when there are none, and seconds
too when there are neither. -/
def DateTime.numbers (moment : DateTime) : List Int :=
  moment.date.numbers ++ [(moment.hour : Int), moment.minute] ++
    (if moment.microsecond ≠ 0 then [(moment.second : Int), moment.microsecond]
    else if moment.second ≠ 0 then [(moment.second : Int)] else [])

namespace Value

/-- A named list of numbers in parentheses. -/
def call (name : String) (numbers : List Int) : Text :=
  name ++ "(" ++ ", ".intercalate (numbers.map toString) ++ ")"

/-- How a message shows a value. -/
def display : Value → Text
  | null => "None"
  | bool true => "True"
  | bool false => "False"
  | int value => toString value
  | double value => value.display
  | text value => Text.quoted value
  | list items => "[" ++ Text.listing (displayItems items) ++ "]"
  | object entries => "\x7b" ++ Text.listing (displayEntries entries) ++ "\x7d"
  | date value => call "datetime.date" value.numbers
  | dateTime value => call "datetime.datetime" value.numbers
where
  /-- The items of a list. -/
  displayItems : List Value → List Text
    | [] => []
    | item :: items => item.display :: displayItems items
  /-- The entries of an object, each with its name. -/
  displayEntries : List (Text × Value) → List Text
    | [] => []
    | (name, value) :: entries =>
      (Text.quoted name ++ ": " ++ value.display) :: displayEntries entries

/-- A value as it stands within running text: text and dates as they are written. -/
def plain : Value → Text
  | text value => value
  | date value => value.iso
  | dateTime value => value.written " "
  | other => other.display

/-! ### Values that can be shown -/

/-- Whether every integer within a value can be written, so that a message can show the value. -/
def isWritable : Value → Bool
  | int value => IsWritable value
  | list items => writableItems items
  | object entries => writableEntries entries
  | null | bool _ | double _ | text _ | date _ | dateTime _ => true
where
  /-- Whether all items of a list can be shown. -/
  writableItems : List Value → Bool
    | [] => true
    | item :: items => item.isWritable && writableItems items
  /-- Whether all entries of an object can be shown. -/
  writableEntries : List (Text × Value) → Bool
    | [] => true
    | (_, value) :: entries => value.isWritable && writableEntries entries

@[simp]
theorem isWritable_int {value : Int} : (int value).isWritable = true ↔ IsWritable value := by
  simp only [isWritable, decide_eq_true_eq]

/-- A list can be shown if its items can be. -/
theorem isWritable_list {items : List Value} :
    (list items).isWritable = true ↔ ∀ item ∈ items, item.isWritable = true := by
  show isWritable.writableItems items = true ↔ _
  induction items with
  | nil => simp [isWritable.writableItems]
  | cons item items ih => simp [isWritable.writableItems, ih]

/-- An object can be shown if the contents of its entries can be. -/
theorem isWritable_object {entries : List (Text × Value)} :
    (object entries).isWritable = true ↔ ∀ entry ∈ entries, entry.2.isWritable = true := by
  show isWritable.writableEntries entries = true ↔ _
  induction entries with
  | nil => simp [isWritable.writableEntries]
  | cons entry entries ih => simp [isWritable.writableEntries, ih]

end Value

end Recurrence
