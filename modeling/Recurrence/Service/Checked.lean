/-
**Checked input.**

The parts of a request are checked one by one, and every part that is refused is reported with its
place, the reason, and what was given. Checking several parts keeps the reports of all of them in
order.

* `Checked.accepted_seq_iff`: parts are accepted together exactly when each of them is.
-/
import Recurrence.Value.Basic

namespace Recurrence.Service

/-- One step to a place within a request: a named part or an item of a list. -/
inductive Place where
  | name (text : String)
  | index (number : Nat)
deriving DecidableEq

/-- Why a part of a request is refused. -/
inductive Refusal where
  | missing
  | jsonInvalid
  | modelAttributesType
  | stringType
  | stringTooShort
  | stringTooLong
  | stringUnicode
  | intType
  | intParsing
  | intParsingSize
  | intFromFloat
  | finiteNumber
  | greaterThanEqual
  | lessThanEqual
  | listType
  | dateType
  | dateParsing
  | dateFromDatetimeParsing
  | dateFromDatetimeInexact
deriving DecidableEq

/-- The code of each reason. -/
def Refusal.code : Refusal → String
  | missing => "missing"
  | jsonInvalid => "json_invalid"
  | modelAttributesType => "model_attributes_type"
  | stringType => "string_type"
  | stringTooShort => "string_too_short"
  | stringTooLong => "string_too_long"
  | stringUnicode => "string_unicode"
  | intType => "int_type"
  | intParsing => "int_parsing"
  | intParsingSize => "int_parsing_size"
  | intFromFloat => "int_from_float"
  | finiteNumber => "finite_number"
  | greaterThanEqual => "greater_than_equal"
  | lessThanEqual => "less_than_equal"
  | listType => "list_type"
  | dateType => "date_type"
  | dateParsing => "date_parsing"
  | dateFromDatetimeParsing => "date_from_datetime_parsing"
  | dateFromDatetimeInexact => "date_from_datetime_inexact"

/-- A refused part with its place. -/
structure FieldError where
  place : List Place
  reason : Refusal
  /-- What was given at the place; for a missing part, what it is missing from. -/
  given : Value
deriving DecidableEq

/-- Checked input: its content, or the parts that are refused. -/
inductive Checked (α : Type) where
  | accepted (content : α)
  | refused (errors : List FieldError)

namespace Checked

/-- The result of checking what is given at a place. -/
def ofExcept {α : Type} (place : List Place) (given : Value) : Except Refusal α → Checked α
  | .ok content => accepted content
  | .error reason => refused [⟨place, reason, given⟩]

/-- Applies checked content to checked content; the refused parts of both are kept. -/
def apply {α β : Type} : Checked (α → β) → Checked α → Checked β
  | accepted function, accepted content => accepted (function content)
  | accepted _, refused errors => refused errors
  | refused errors, accepted _ => refused errors
  | refused errors, refused others => refused (errors ++ others)

instance : Applicative Checked where
  pure := accepted
  seq function content := function.apply (content ())

/-- Parts are accepted together exactly when each of them is. -/
theorem accepted_seq_iff {α β : Type} {function : Checked (α → β)} {content : Checked α}
    {result : β} :
    function <*> content = accepted result ↔
      ∃ f a, function = accepted f ∧ content = accepted a ∧ f a = result := by
  cases function <;> cases content <;> simp [Seq.seq, apply]

/-- All items of a list checked, with their numbers. -/
def items {α β : Type} (check : Nat → α → Checked β) : (number : Nat) → List α → Checked (List β)
  | _, [] => accepted []
  | number, item :: rest =>
    apply (apply (accepted List.cons) (check number item)) (items check (number + 1) rest)

end Checked

end Recurrence.Service
