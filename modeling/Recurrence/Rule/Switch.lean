/-
**Switching a draft to another kind.**

Every kind has a pattern that an anchor date fits (`Pattern.anchored`). Switching a draft to a kind
gives it that pattern, so that the anchor can stay among its dates; without an anchor the start date
is taken.
-/
import Recurrence.Rule.Validation

namespace Recurrence

/-- The day of the month of a date. -/
def MonthDay.ofDate (date : Date) : MonthDay where
  number := date.day
  one_le := date.one_le_day
  le_last := date.day_le

/-- The pattern of a kind that an anchor fits. Kinds without fields of their own do not look at the
anchor. -/
def Pattern.anchored (kind : Kind) (anchor : Value) : Except Mismatch Pattern :=
  match kind with
  | .daily => .ok .daily
  | .weekly => do return .weekly (.ofList (← anchor.asDate "isoweekday").weekday [])
  | .monthlyByDay => do return .monthlyByDay (.ofDate (← anchor.asDate "day"))
  | .monthlyByWeekday => do
    let date ← anchor.asDate "day"
    return .monthlyByWeekday date.ordinal date.weekday
  | .yearly => .ok .yearly

/-- The pattern that an anchor fits, of the kind that a value names. -/
def Pattern.ofNamedKind (named anchor : Value) : Except Error Pattern := do
  let kind ← named.asKind.mapError .rule
  (Pattern.anchored kind anchor).mapError .mismatch

/-- The draft switched to a kind, with the start date as its anchor if none is filled in. -/
def Draft.switchKind (draft : Draft) (named anchor : Value) : Except Error Draft := do
  let anchor := if anchor.isFilled then anchor else draft.startDate
  return draft.withPattern (← Pattern.ofNamedKind named anchor)

/-- The outcomes of several switches, one after the other, each to a kind with an anchor. A switch
that fails leaves the draft as it is. -/
def Draft.switches (draft : Draft) : List (Value × Value) → List (Except Error Draft)
  | [] => []
  | (named, anchor) :: later =>
    let outcome := draft.switchKind named anchor
    outcome :: (outcome.toOption.getD draft).switches later

end Recurrence
