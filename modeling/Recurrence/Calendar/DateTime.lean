/-
**Dates with a time of day.**

A form may hold a date with a time where a date is asked for. It is written `YYYY-MM-DDTHH:MM:SS`,
with six more digits after a point when it has microseconds.
-/
import Recurrence.Calendar.Date

namespace Recurrence

/-- A date and a time of day. -/
structure DateTime where
  date : Date
  hour : Nat
  minute : Nat
  second : Nat
  microsecond : Nat
deriving DecidableEq

namespace DateTime

/-- The microseconds since the beginning of the calendar, by which such dates are ordered. -/
def instant (moment : DateTime) : Int :=
  (((moment.date.dayNumber * 24 + moment.hour) * 60 + moment.minute) * 60 + moment.second) *
    1000000 + moment.microsecond

/-- The written form, with a mark between date and time. -/
def written (moment : DateTime) (mark : String) : String :=
  moment.date.iso ++ mark ++ Text.padded 2 moment.hour ++ ":" ++ Text.padded 2 moment.minute ++
    ":" ++ Text.padded 2 moment.second ++
    (if moment.microsecond = 0 then "" else "." ++ Text.padded 6 moment.microsecond)

/-- The written form `YYYY-MM-DDTHH:MM:SS`, with the microseconds if there are any. -/
def iso (moment : DateTime) : String := moment.written "T"

/-- The date with another date in its place and the same time. -/
def onDate (moment : DateTime) (date : Date) : DateTime := { moment with date }

/-- Reads up to six digits of a fraction of a second. -/
def fraction? (chars : List Char) : Option Nat :=
  if chars.length ≤ 6 then Text.digits? (chars ++ List.replicate (6 - chars.length) '0') else none

/-- Reads the written form; seconds and their fraction may be left out. -/
def ofIso? (text : String) : Option DateTime := do
  let chars := text.toList
  let date ← Date.ofIso? (String.ofList (chars.take 10))
  let clock (h₁ h₂ m₁ m₂ s₁ s₂ : Char) (microsecond : Nat) : Option DateTime := do
    let hour ← Text.digits? [h₁, h₂]
    let minute ← Text.digits? [m₁, m₂]
    let second ← Text.digits? [s₁, s₂]
    if hour < 24 ∧ minute < 60 ∧ second < 60 then
      some { date, hour, minute, second, microsecond }
    else none
  match chars.drop 10 with
  | [] => clock '0' '0' '0' '0' '0' '0' 0
  | [_, h₁, h₂, ':', m₁, m₂] => clock h₁ h₂ m₁ m₂ '0' '0' 0
  | [_, h₁, h₂, ':', m₁, m₂, ':', s₁, s₂] => clock h₁ h₂ m₁ m₂ s₁ s₂ 0
  | _ :: h₁ :: h₂ :: ':' :: m₁ :: m₂ :: ':' :: s₁ :: s₂ :: '.' :: digits => do
    clock h₁ h₂ m₁ m₂ s₁ s₂ (← fraction? digits)
  | _ => none

end DateTime

end Recurrence
