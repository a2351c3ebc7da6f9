/-
**Recurrence rules.**

A rule repeats from a start date, every so many days, weeks, months or years, until an end date if
it has one. Its `Pattern` is what it repeats: every day, chosen weekdays, a day of the month, a
weekday of the month with its place, or the start's day of the year. A rule can only be built with
its invariants: the interval is at least one, no rule ends before it starts, and a weekly rule
chooses at least one weekday.

* `WeekdaySet.mem_ofList`: a weekday is chosen exactly when it was listed;
* `WeekdaySet.ext_mem`: a choice of weekdays is determined by its members.
-/
import Recurrence.Calendar.Ordinal

namespace Recurrence

/-! ### Kinds -/

/-- The kinds of rules. -/
inductive Kind where
  | daily
  | weekly
  | monthlyByDay
  | monthlyByWeekday
  | yearly
deriving DecidableEq

namespace Kind

/-- All kinds. -/
def all : List Kind := [daily, weekly, monthlyByDay, monthlyByWeekday, yearly]

/-- The written form of a kind. -/
def name : Kind → String
  | daily => "daily"
  | weekly => "weekly"
  | monthlyByDay => "monthly_by_day"
  | monthlyByWeekday => "monthly_by_weekday"
  | yearly => "yearly"

/-- The name of the form that rules of a kind are filled in on. -/
def formName : Kind → String
  | daily => "DailyRule"
  | weekly => "WeeklyRule"
  | monthlyByDay => "MonthlyByDayRule"
  | monthlyByWeekday => "MonthlyByWeekdayRule"
  | yearly => "YearlyRule"

/-- Reads the written form of a kind. -/
def ofName? (text : String) : Option Kind := all.find? (·.name == text)

/-- Finds the kind whose form has a name. -/
def ofFormName? (text : String) : Option Kind := all.find? (·.formName == text)

theorem ofName?_name (kind : Kind) : ofName? kind.name = some kind := by
  cases kind <;> decide

end Kind

/-! ### Weekdays and days of the month -/

/-- A choice of weekdays, at least one, in increasing order. -/
@[ext]
structure WeekdaySet where
  toList : List Weekday
  increasing : toList.Pairwise (· < ·)
  nonempty : toList ≠ []

instance : DecidableEq WeekdaySet := fun _ _ => decidable_of_iff _ WeekdaySet.ext_iff.symm

namespace WeekdaySet

/-- The weekdays in a list, in increasing order and without repetitions. -/
def listed (weekdays : List Weekday) : List Weekday :=
  (List.finRange 7).filter (· ∈ weekdays)

theorem mem_listed {weekday : Weekday} {weekdays : List Weekday} :
    weekday ∈ listed weekdays ↔ weekday ∈ weekdays := by
  simp [listed]

/-- The choice of the weekdays in a list. -/
def ofList (first : Weekday) (others : List Weekday) : WeekdaySet where
  toList := listed (first :: others)
  increasing := List.Pairwise.filter _ (by decide)
  nonempty := List.ne_nil_of_mem (mem_listed.mpr (List.mem_cons_self ..))

instance : Membership Weekday WeekdaySet := ⟨fun chosen weekday => weekday ∈ chosen.toList⟩

/-- A weekday is chosen exactly when it was listed. -/
theorem mem_ofList {weekday first : Weekday} {others : List Weekday} :
    weekday ∈ ofList first others ↔ weekday ∈ first :: others :=
  mem_listed

/-- A choice of weekdays is determined by its members. -/
theorem ext_mem {chosen other : WeekdaySet}
    (same : ∀ weekday : Weekday, weekday ∈ chosen ↔ weekday ∈ other) : chosen = other := by
  have distinct {weekdays : List Weekday} (increasing : weekdays.Pairwise (· < ·)) :
      weekdays.Nodup :=
    increasing.imp fun less => Fin.ne_of_lt less
  have rearranged : chosen.toList.Perm other.toList :=
    (List.perm_ext_iff_of_nodup (distinct chosen.increasing) (distinct other.increasing)).mpr same
  exact WeekdaySet.ext (rearranged.eq_of_pairwise
    (fun _ _ _ _ less more => absurd more (Fin.lt_asymm less)) chosen.increasing other.increasing)

/-- The first chosen weekday. -/
def first (chosen : WeekdaySet) : Weekday := chosen.toList.head chosen.nonempty

end WeekdaySet

/-- A day of the month, which a short month may lack. -/
@[ext]
structure MonthDay where
  number : Int
  one_le : 1 ≤ number
  le_last : number ≤ 31

instance : DecidableEq MonthDay := fun _ _ => decidable_of_iff _ MonthDay.ext_iff.symm

/-! ### Rules -/

/-- What a rule repeats. -/
inductive Pattern where
  | daily
  | weekly (weekdays : WeekdaySet)
  | monthlyByDay (day : MonthDay)
  | monthlyByWeekday (ordinal : Ordinal) (weekday : Weekday)
  | yearly
deriving DecidableEq

/-- The kind of a pattern. -/
def Pattern.kind : Pattern → Kind
  | daily => .daily
  | weekly _ => .weekly
  | monthlyByDay _ => .monthlyByDay
  | monthlyByWeekday .. => .monthlyByWeekday
  | yearly => .yearly

/-- A recurrence rule. -/
@[ext]
structure Rule where
  pattern : Pattern
  /-- Every how many days, weeks, months or years the rule applies. -/
  interval : Int
  startDate : Date
  endDate : Option Date
  one_le_interval : 1 ≤ interval
  start_le_end : ∀ last ∈ endDate, startDate ≤ last

instance : DecidableEq Rule := fun _ _ => decidable_of_iff _ Rule.ext_iff.symm

/-- The kind of a rule. -/
def Rule.kind (rule : Rule) : Kind := rule.pattern.kind

end Recurrence
