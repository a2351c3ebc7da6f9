/-
**Stored lists of weekdays.**

A list of numbers is stored as text with commas between the numbers, the empty list as no text
(`format`). A number may have too many digits to be written (`write`); weekdays never have. Reading
skips blank parts and reports the first part that is no integer, as it stands (`parse`). Where the
numbers or the text come from a form they may be anything; `formatForm` and `parseForm` take them as
they come.
-/
import Recurrence.Error

namespace Recurrence.WeekdayText

/-- The stored text of a list of numbers. -/
def format (days : List Int) : Option Text :=
  if days.isEmpty then none else some (.join "," (days.map fun day => toString day))

/-- Writes the stored text of a list of numbers, unless one of them has too many digits. -/
def write (days : List Int) : Except NumeralError (Option Text) := do
  let parts ← days.mapM Text.decimal
  return if parts.isEmpty then none else some (.join "," parts)

/-- Reads the numbers of a stored text. -/
def parse (stored : Option Text) : Except NumeralError (List Int) :=
  let parts := (stored.getD "").codePoints.splitOn (.char ',')
  (parts.filter fun part => !part.all (CodePoint.isIn Text.isBlank)).mapM
    fun part => Text.integer ⟨part⟩

/-- The stored text of days as they stand on a form. Numbers that stand there have been read, so
they do not have too many digits. -/
def formatForm (days : Value) : Except Mismatch (Option Text) :=
  if days.isFilled then do return some (.join "," ((← days.items).map Value.plain))
  else .ok none

/-- Reads the numbers of a stored text as it stands on a form. -/
def parseForm (stored : Value) : Except Error (List Int) := do
  if !stored.isFilled then return []
  let text ← (stored.asText "split").mapError .mismatch
  (parse (some text)).mapError .numeral

/-- A stored text is read the same on a form. -/
theorem parseForm_ofOption (stored : Option Text) :
    parseForm (.ofOption .text stored) = (parse stored).mapError .numeral := by
  cases stored with
  | none => rfl
  | some text =>
    cases text with
    | mk codePoints => cases codePoints <;> rfl

end Recurrence.WeekdayText
