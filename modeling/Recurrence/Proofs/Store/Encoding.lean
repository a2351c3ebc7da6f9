/-
**Rules in columns are read back.**

The columns of a record hold a rule in one form only: the draft in them is the form of the rule, and
the rule made of that draft is the rule again. The weekdays are the only part that is not stored as
it stands on the form; they become text and are read from it one by one.

* `WeekdayText.parse_format`: listed numbers are read back if each of them is;
* `Columns.toDraft_ofRule`, `Columns.toRule_ofRule`: columns give back what was written into them;
* `Columns.ofRule_inj`: different rules are different columns;
* `Record.write_read_back`: so a rule written into any record is read back, and nothing of the rule
  before is.
-/
import Recurrence.Proofs.Rule.Draft
import Recurrence.Store.Record

namespace Recurrence

/-! ### Stored lists of weekdays -/

namespace WeekdayText

/-- The decimal form of a number stands for the number in a list: it has no comma, is not blank, and
is read as the number. -/
structure IsListed (number : Int) : Prop where
  commaless : .char ',' ∉ (Text.ofString (toString number)).codePoints
  visible : (Text.ofString (toString number)).codePoints.all (CodePoint.isIn Text.isBlank) = false
  read : Text.integer (Text.ofString (toString number)) = .ok number

/-- **Listed numbers are read back if each of them is.** -/
theorem parse_format {numbers : List Int} (listed : ∀ number ∈ numbers, IsListed number) :
    parse (format numbers) = .ok numbers := by
  cases numbers with
  | nil => rfl
  | cons first others =>
    let parts := (first :: others).map fun number => (Text.ofString (toString number)).codePoints
    have written : format (first :: others) = some ⟨[.char ','].intercalate parts⟩ := by
      simp only [format, List.isEmpty_cons, Bool.false_eq_true, if_false, Text.join, List.map_map,
        parts]
      rfl
    have split : ([CodePoint.char ','].intercalate parts).splitOn (.char ',') = parts := by
      refine List.splitOn_intercalate _ (fun part member => ?_) (List.cons_ne_nil _ _)
      obtain ⟨number, inside, rfl⟩ := List.mem_map.mp member
      exact (listed number inside).commaless
    have visible : parts.filter (fun part => !part.all (CodePoint.isIn Text.isBlank)) = parts := by
      refine List.filter_eq_self.mpr fun part member => ?_
      obtain ⟨number, inside, rfl⟩ := List.mem_map.mp member
      rw [(listed number inside).visible]
      rfl
    have read : parts.mapM (fun part => Text.integer ⟨part⟩) = .ok (first :: others) :=
      mapM_map_ok fun number member => (listed number member).read
    unfold parse
    rw [written, Option.getD_some]
    simp only [split, visible]
    exact read

theorem isListed_weekday (weekday : Weekday) : IsListed weekday.val := by
  match weekday with
  | 0 | 1 | 2 | 3 | 4 | 5 | 6 => exact ⟨by decide, by decide, rfl⟩

/-- The weekdays of a pattern are read back. -/
theorem parse_format_weekdayNumbers (pattern : Pattern) :
    parse (format pattern.weekdayNumbers) = .ok pattern.weekdayNumbers := by
  refine parse_format fun number member => ?_
  cases pattern with
  | weekly weekdays =>
    obtain ⟨weekday, _, rfl⟩ := List.mem_map.mp member
    exact isListed_weekday weekday
  | daily | monthlyByDay _ | monthlyByWeekday _ _ | yearly => cases member

end WeekdayText

/-! ### Columns -/

namespace Columns

/-- **The columns of a rule hold the form of the rule.** -/
theorem toDraft_ofRule (rule : Rule) : (ofRule rule).toDraft = .ok (Draft.ofRule rule) := by
  have days : WeekdayText.parseForm (ofRule rule).daysOfWeek =
      .ok rule.pattern.weekdayNumbers := by
    simp only [ofRule, WeekdayText.parseForm_ofOption, WeekdayText.parse_format_weekdayNumbers,
      mapError_ok]
  unfold toDraft
  rw [days]
  simp only [bind, Except.bind, ← Draft.ofRule_daysOfWeek]
  rfl

/-- **The columns of a rule hold the rule.** -/
theorem toRule_ofRule (rule : Rule) : (ofRule rule).toRule = .ok rule := by
  unfold toRule
  rw [toDraft_ofRule]
  exact Draft.toRule_ofRule rule

/-- Different rules are different columns. -/
theorem ofRule_inj {first second : Rule} : ofRule first = ofRule second ↔ first = second := by
  refine ⟨fun same => ?_, congrArg ofRule⟩
  have read := congrArg toRule same
  rw [toRule_ofRule, toRule_ofRule] at read
  exact Except.ok.inj read

end Columns

/-! ### Records -/

/-- **A rule written into a record is read back, whatever the columns held before.** The rest of the
record stays, and records hold the same columns exactly when the same rule was written last. -/
theorem Record.write_read_back (record other : Record) (rule rule' : Rule) :
    (record.write rule).toDraft = .ok (Draft.ofRule rule) ∧
      (record.write rule).toRule = .ok rule ∧
      { record.write rule with columns := record.columns } = record ∧
      ((record.write rule).columns = (other.write rule').columns ↔ rule = rule') :=
  ⟨Columns.toDraft_ofRule rule, Columns.toRule_ofRule rule, rfl, Columns.ofRule_inj⟩

end Recurrence
