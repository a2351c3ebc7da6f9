/-
**Drafts after a switch of their kind.**

A switch gives a draft the pattern of a kind that an anchor fits, and empties the fields of the
other kinds. So nothing is left of an earlier switch, and whatever stood in the fields of a kind
before, the draft is made into a rule, or refused, as a daily one would be.

* `Pattern.anchored_eq`: every kind has a pattern that a date fits;
* `Draft.switchKind_eq`: a draft switched to a kind gets that pattern;
* `Draft.toRule_withPattern`: a draft with a pattern is refused for what a daily one is refused for;
* `Draft.switchKind_last`: only the last switch counts, and it leaves nothing to tidy up.
-/
import Recurrence.Proofs.Rule.CheckOrder
import Recurrence.Proofs.Rule.Normal
import Recurrence.Rule.Switch

namespace Recurrence

/-! ### Patterns that a date fits -/

/-- A value has a day: it is a date, with or without a time. -/
def Value.HasDay (value : Value) (date : Date) : Prop :=
  value = .date date ∨ ∃ moment, value = .dateTime moment ∧ moment.date = date

namespace Value.HasDay

variable {value : Value} {date : Date}

theorem asDate_eq (has : value.HasDay date) (part : String) : value.asDate part = .ok date := by
  rcases has with rfl | ⟨moment, rfl, rfl⟩ <;> rfl

theorem isFilled (has : value.HasDay date) : value.isFilled = true := by
  rcases has with rfl | ⟨moment, rfl, rfl⟩ <;> rfl

end Value.HasDay

namespace Pattern

/-- The pattern of a kind that a date fits. -/
def fitting (date : Date) : Kind → Pattern
  | .daily => daily
  | .weekly => weekly (.ofList date.weekday [])
  | .monthlyByDay => monthlyByDay (.ofDate date)
  | .monthlyByWeekday => monthlyByWeekday date.ordinal date.weekday
  | .yearly => yearly

@[simp]
theorem fitting_kind (date : Date) (kind : Kind) : (fitting date kind).kind = kind := by
  cases kind <;> rfl

variable {anchor : Value} {date : Date}

/-- **Every kind has a pattern that a date fits.** -/
theorem anchored_eq (has : anchor.HasDay date) (kind : Kind) :
    anchored kind anchor = .ok (fitting date kind) := by
  cases kind <;> simp only [anchored, has.asDate_eq] <;> rfl

theorem ofNamedKind_name (has : anchor.HasDay date) (kind : Kind) :
    ofNamedKind (.text kind.name) anchor = .ok (fitting date kind) := by
  unfold ofNamedKind
  rw [Value.asKind_name]
  show (anchored kind anchor).mapError Error.mismatch = _
  rw [anchored_eq has]
  rfl

theorem ofNamedKind_of_unknown {named : Value} {cause : RuleError}
    (unknown : named.asKind = .error cause) : ofNamedKind named anchor = .error (.rule cause) := by
  unfold ofNamedKind
  rw [unknown]
  rfl

end Pattern

namespace Draft

variable {draft : Draft} {kind : Kind} {anchor : Value} {date : Date}

/-! ### Switches -/

/-- A switch of the draft takes a day for its anchor: that of the anchor it is given, or if it is
given none, that of the start. -/
def IsAnchoredAt (draft : Draft) (anchor : Value) (date : Date) : Prop :=
  anchor.HasDay date ∨ anchor = .null ∧ draft.startDate.HasDay date

/-- **A draft switched to a kind gets the pattern that the anchor fits.** -/
theorem switchKind_eq (anchored : draft.IsAnchoredAt anchor date) (kind : Kind) :
    draft.switchKind (.text kind.name) anchor = .ok (draft.withPattern (.fitting date kind)) := by
  have taken : (if anchor.isFilled then anchor else draft.startDate).HasDay date := by
    rcases anchored with given | ⟨rfl, start⟩
    · rwa [if_pos given.isFilled]
    · exact start
  unfold switchKind
  simp only [Pattern.ofNamedKind_name taken]
  rfl

theorem switchKind_of_unknown {named : Value} {cause : RuleError}
    (unknown : named.asKind = .error cause) (draft : Draft) (anchor : Value) :
    draft.switchKind named anchor = .error (.rule cause) := by
  unfold switchKind
  simp only [Pattern.ofNamedKind_of_unknown unknown]
  rfl

/-- Of two patterns given to a draft one after the other, only the second one stays. -/
theorem withPattern_withPattern (draft : Draft) (first second : Pattern) :
    (draft.withPattern first).withPattern second = draft.withPattern second := by
  cases first <;> cases second <;> rfl

/-! ### Rules of switched drafts -/

/-- **A draft with a pattern is refused for what a daily one is refused for,** its interval, its
start or its end. Otherwise it is made into a rule with that pattern. -/
theorem toRule_withPattern (draft : Draft) (pattern : Pattern) :
    (draft.withPattern pattern).toRule =
      (draft.set .recurrenceType (.text Kind.daily.name)).toRule.map
        fun rule => { rule with pattern := pattern } := by
  have daily : (draft.set .recurrenceType (.text Kind.daily.name)).toRule =
      Rule.ofDraft .daily draft := by
    rw [toRule_of_ne_weekly (get_set_self draft .recurrenceType _) (by decide)]
    rfl
  rw [toRule_of_named (withPattern_recurrenceType ..) fun _ => withPattern_daysOfWeek .., daily]
  unfold Rule.ofDraft
  rw [withPattern_interval, withPattern_startDate, withPattern_endDate,
    Pattern.ofDraft_withPattern]
  -- Both make the same checks in the same order, so they part at none of them.
  cases draft.interval.asInterval with
  | error cause => rfl
  | ok interval =>
    simp only [Pattern.ofDraft, mapError_ok, bind, Except.bind]
    cases draft.startDate.asStartDate with
    | error cause => rfl
    | ok start =>
      simp only [mapError_ok]
      cases draft.endDate.asEndDate start <;> rfl

/-- **Only the last switch counts,** whatever the fields hold. A draft that is switched twice is the
draft switched to the second kind only; it is made into a rule of that kind if the draft would be
made into a daily one, and is refused for the same cause if not. Nothing is left to tidy up on it:
it is the form of the rule. -/
theorem switchKind_last {firstAnchor secondAnchor : Value} {firstDate secondDate : Date}
    (firstAnchored : draft.IsAnchoredAt firstAnchor firstDate)
    (secondAnchored : draft.IsAnchoredAt secondAnchor secondDate) (first second : Kind) :
    ∃ middle switched,
      draft.switchKind (.text first.name) firstAnchor = .ok middle ∧
      middle.switchKind (.text second.name) secondAnchor = .ok switched ∧
      draft.switchKind (.text second.name) secondAnchor = .ok switched ∧
      switched.toRule = (draft.set .recurrenceType (.text Kind.daily.name)).toRule.map
        (fun rule => { rule with pattern := .fitting secondDate second }) ∧
      ∀ rule, switched.toRule = .ok rule → ofRule rule = switched := by
  have secondAnchored' : (draft.withPattern (.fitting firstDate first)).IsAnchoredAt secondAnchor
      secondDate := by
    rwa [IsAnchoredAt, withPattern_startDate]
  refine ⟨_, draft.withPattern (.fitting secondDate second), switchKind_eq firstAnchored first, ?_,
    switchKind_eq secondAnchored second, toRule_withPattern .., fun rule made => ?_⟩
  · rw [switchKind_eq secondAnchored', withPattern_withPattern]
  · exact ((toRule_eq_ok_iff.mp made).eq_ofRule (isNormal_withPattern ..)).symm

/-- A draft with a proper start, end and interval whose other fields hold anything. -/
def littered : Draft :=
  { cluttered with
    recurrenceType := .text "hourly"
    daysOfWeek := .text "135"
    monthDay := .bool true
    monthWeek := .int 9
    monthWeekDay := .list [.null] }

/-- The day after the start of that draft. -/
def dayAfterLittered : Date := ⟨739874, by decide, by decide⟩

/-- A littered draft is switched to a day of the month, and then to a weekday of it without another
anchor than its start. -/
theorem switchKind_last_littered :
    littered.IsAnchoredAt (.date dayAfterLittered) dayAfterLittered ∧
      littered.IsAnchoredAt .null tidied.startDate ∧
      ∃ middle switched,
        littered.switchKind (.text Kind.monthlyByDay.name) (.date dayAfterLittered) =
          .ok middle ∧
        middle.switchKind (.text Kind.monthlyByWeekday.name) .null = .ok switched ∧
        littered.switchKind (.text Kind.monthlyByWeekday.name) .null = .ok switched ∧
        (∃ rule, switched.toRule = .ok rule) ∧
        ∀ rule, switched.toRule = .ok rule → ofRule rule = switched := by
  have given : littered.IsAnchoredAt (.date dayAfterLittered) dayAfterLittered := .inl (.inl rfl)
  have start : littered.IsAnchoredAt .null tidied.startDate := .inr ⟨rfl, .inl rfl⟩
  obtain ⟨middle, switched, first, second, direct, made, normal⟩ :=
    switchKind_last given start .monthlyByDay .monthlyByWeekday
  exact ⟨given, start, middle, switched, first, second, direct, ⟨_, made⟩, normal⟩

end Draft

end Recurrence
