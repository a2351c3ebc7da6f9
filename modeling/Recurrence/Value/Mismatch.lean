/-
**Values of the wrong type.**

Some operations take loosely typed values and need more of them than every value has: items to go
through, an order, a day, a whole number. What they miss is a `Mismatch`.

* `Value.items`: the parts of a value that has parts;
* `Value.asDate`: the day of a value that has one;
* `Value.asWhole`: the integer that a value counts as.
-/
import Recurrence.Value.Basic

namespace Recurrence

/-- The comparisons that values are asked about. -/
inductive Comparison where
  | less
  | greater
  | atMost
  | atLeast
deriving DecidableEq

namespace Comparison

/-- The sign of a comparison. -/
def sign : Comparison → String
  | less => "<"
  | greater => ">"
  | atMost => "<="
  | atLeast => ">="

/-- A comparison of two things whose order and equality are known. -/
def holds {α : Type} (comparison : Comparison) (isLess isEqual : α → α → Bool)
    (first second : α) : Bool :=
  match comparison with
  | less => isLess first second
  | greater => isLess second first
  | atMost => isLess first second || isEqual first second
  | atLeast => isLess second first || isEqual first second

end Comparison

/-- What a value lacks for an operation. -/
inductive Mismatch where
  /-- Values of this type have no items. -/
  | noItems (typeName : String)
  /-- Values of these types are not ordered. -/
  | notOrdered (comparison : Comparison) (first second : String)
  /-- A date with a time is not ordered against a date. -/
  | timeAgainstDate
  /-- Values of this type have no such part. -/
  | noPart (typeName part : String)
  /-- Values of this type do not count as integers. -/
  | notWhole (typeName : String)
  /-- An operation is not defined between values of these types. -/
  | noOperation (sign first second : String)
  /-- A value of one type cannot be continued by a value of another. -/
  | notContinued (first second : String)
  /-- Values of this type cannot be collected in a set. -/
  | notCollected (typeName : String)
deriving DecidableEq

/-- The wording of each mismatch. -/
def Mismatch.message : Mismatch → String
  | noItems typeName => s!"'{typeName}' object is not iterable"
  | notOrdered comparison first second =>
    s!"'{comparison.sign}' not supported between instances of '{first}' and '{second}'"
  | timeAgainstDate => "can't compare datetime.datetime to datetime.date"
  | noPart typeName part => s!"'{typeName}' object has no attribute '{part}'"
  | notWhole typeName => s!"'{typeName}' object cannot be interpreted as an integer"
  | noOperation sign first second =>
    s!"unsupported operand type(s) for {sign}: '{first}' and '{second}'"
  | notContinued first second => s!"can only concatenate {first} (not \"{second}\") to {first}"
  | notCollected typeName => s!"unhashable type: '{typeName}'"

namespace Value

/-- The items of a list, the code points of a text, or the names of an object's entries. -/
def items : Value → Except Mismatch (List Value)
  | list items => .ok items
  | text value => .ok (value.codePoints.map fun codePoint => text ⟨[codePoint]⟩)
  | object entries => .ok (entries.map fun entry => text entry.1)
  | other => .error (.noItems other.typeName)

/-- The day of a date, with or without a time. Of any other value a part was asked for in vain. -/
def asDate (part : String) : Value → Except Mismatch Date
  | date value => .ok value
  | dateTime value => .ok value.date
  | other => .error (.noPart other.typeName part)

/-- The written form of a date, with its time if it has one. -/
def asIso : Value → Except Mismatch String
  | date value => .ok value.iso
  | dateTime value => .ok value.iso
  | other => .error (.noPart other.typeName "isoformat")

/-- A text; of any other value a part was asked for in vain. -/
def asText (part : String) : Value → Except Mismatch Text
  | text value => .ok value
  | other => .error (.noPart other.typeName part)

/-- An integer, or a truth value as one or zero. -/
def asWhole (value : Value) : Except Mismatch Int :=
  match value.number?.bind Number.whole? with
  | some whole => .ok whole
  | none => .error (.notWhole value.typeName)

/-- The numbers that an operation is applied to. -/
def operands (sign : String) (first second : Value) : Except Mismatch (Number × Number) :=
  match first.number?, second.number? with
  | some first, some second => .ok (first, second)
  | _, _ => .error (.noOperation sign first.typeName second.typeName)

/-- Lets values pass that can be collected in a set: all but lists and objects. -/
def requireCollected : Value → Except Mismatch Unit
  | list _ => .error (.notCollected (list []).typeName)
  | object _ => .error (.notCollected (object []).typeName)
  | _ => .ok ()

end Value

end Recurrence
