/-
**The order in which a draft is checked.**

The checks of a draft have a fixed order: its kind, its interval, the fields of its kind, its start
date, its end date, and last whether it ends before it starts. A draft is refused for the first
check that it does not pass, whatever the later ones would say, and fields of other kinds are not
looked at. The refusal shows what was found, and is no refusal any more where that has too many
digits to be shown.

* `Check.Refuses`: what a check refuses, and for which cause;
* `Kind.checks`, `Draft.checks`: the checks of a kind and of a draft in their order;
* `Draft.FirstRefusal`: the cause of the first of several checks that refuses;
* `Draft.Follows.bind`: checks made one after the other report the first refusal;
* `Rule.ofDraft_follows`, `Draft.toRule_follows`: so do the checks of a kind and those of a draft;
* `Rule.ofDraft_congr`: fields of other kinds are not looked at;
* `Draft.toRule_reports`: what is reported of a draft whose weekdays are listed;
* `Draft.toRule_boundless`: an interval that is refused and cannot be shown.
-/
import Recurrence.Proofs.Rule.Normal

namespace Recurrence

/-! ### Checks -/

/-- What is checked of a draft. -/
inductive Check where
  | kind
  | interval
  /-- At least one weekday is listed. -/
  | someWeekday
  /-- A listed item is a weekday. -/
  | weekday (item : Value)
  | monthDay
  | ordinal
  | ordinalWeekday
  | startDate
  | endDate
  /-- The end does not lie before the start. -/
  | order

/-- What a check refuses of a draft, and the cause that it reports, which shows what is refused. -/
inductive Check.Refuses (draft : Draft) : Check → RuleError → Prop
  | kind (unknown : ∀ kind : Kind, draft.recurrenceType ≠ .text kind.name) :
    Refuses draft .kind (.showing .unsupportedKind draft.recurrenceType)
  | interval (wrong : ∀ number : Int, 1 ≤ number → draft.interval ≠ .int number) :
    Refuses draft .interval (.showing .invalidInterval draft.interval)
  | someWeekday (empty : draft.daysOfWeek = .list []) : Refuses draft .someWeekday .noWeekdays
  | weekday {item : Value} (wrong : ∀ number : Int, 0 ≤ number ∧ number ≤ 6 → item ≠ .int number) :
    Refuses draft (.weekday item) (.showing (.invalidWeekday (.ofField .daysOfWeek)) item)
  | monthDay (wrong : ∀ number : Int, 1 ≤ number ∧ number ≤ 31 → draft.monthDay ≠ .int number) :
    Refuses draft .monthDay (.showing .invalidMonthDay draft.monthDay)
  | ordinal (unknown : ∀ ordinal : Ordinal, draft.monthWeek ≠ .text ordinal.name) :
    Refuses draft .ordinal (.showing .unsupportedOrdinal draft.monthWeek)
  | ordinalWeekday
    (wrong : ∀ number : Int, 0 ≤ number ∧ number ≤ 6 → draft.monthWeekDay ≠ .int number) :
    Refuses draft .ordinalWeekday
      (.showing (.invalidWeekday (.ofField .monthWeekDay)) draft.monthWeekDay)
  | startDate (wrong : ∀ date : Date, draft.startDate ≠ .date date) :
    Refuses draft .startDate (.showing .startNoDate draft.startDate)
  | endDate (given : draft.endDate ≠ .null) (wrong : ∀ date : Date, draft.endDate ≠ .date date) :
    Refuses draft .endDate (.showing .endNoDate draft.endDate)
  | order {start last : Date} (begins : draft.startDate = .date start)
    (ends : draft.endDate = .date last) (before : last < start) :
    Refuses draft .order (.endBeforeStart last start)

/-- A draft passes a check that refuses nothing of it. -/
def Draft.Passes (draft : Draft) (check : Check) : Prop := ∀ cause, ¬ check.Refuses draft cause

/-- The checks of the fields of a kind in their order, some items being listed as weekdays. -/
def Kind.ownChecks (items : List Value) : Kind → List Check
  | .daily | .yearly => []
  | .weekly => .someWeekday :: items.map .weekday
  | .monthlyByDay => [.monthDay]
  | .monthlyByWeekday => [.ordinal, .ordinalWeekday]

/-- The checks of a kind in their order. -/
def Kind.checks (items : List Value) (kind : Kind) : List Check :=
  [.interval] ++ (kind.ownChecks items ++ ([.startDate] ++ [.endDate, .order]))

namespace Draft

/-- The kind that a draft names. -/
def kind? (draft : Draft) : Option Kind :=
  Kind.all.find? fun kind => draft.recurrenceType = .text kind.name

/-- The checks of a draft in their order. After an unknown kind there is nothing more to check. -/
def checks (draft : Draft) (items : List Value) : List Check :=
  [.kind] ++ draft.kind?.elim [] (Kind.checks items)

/-- The fields of a draft that are not those of other kinds. -/
def ownFields (draft : Draft) : List Field :=
  [.recurrenceType, .interval, .startDate, .endDate] ++ draft.kind?.elim [] Kind.ownFields

/-- The first of several checks that refuses a draft does so for a cause. -/
inductive FirstRefusal (draft : Draft) : List Check → RuleError → Prop
  | here {check : Check} {later : List Check} {cause : RuleError}
    (refuses : check.Refuses draft cause) : FirstRefusal draft (check :: later) cause
  | later {check : Check} {others : List Check} {cause : RuleError} (passes : draft.Passes check)
    (first : FirstRefusal draft others cause) : FirstRefusal draft (check :: others) cause

end Draft

/-- A check refuses a draft for one cause only. -/
theorem Check.Refuses.unique {draft : Draft} {check : Check} {cause other : RuleError}
    (refuses : check.Refuses draft cause) (refuses' : check.Refuses draft other) :
    cause = other := by
  cases refuses with
  | order begins ends =>
    cases refuses' with
    | order begins' ends' =>
      cases begins.symm.trans begins'
      cases ends.symm.trans ends'
      rfl
  | _ =>
    cases refuses'
    rfl

namespace Draft

variable {α β : Type} {draft : Draft}

/-! ### One check after the other -/

namespace FirstRefusal

variable {checks : List Check} {cause : RuleError}

/-- There is one first refusal at most. -/
theorem unique {other : RuleError} (first : draft.FirstRefusal checks cause)
    (first' : draft.FirstRefusal checks other) : cause = other := by
  induction first with
  | here refuses =>
    cases first' with
    | here refuses' => exact refuses.unique refuses'
    | later passes => exact absurd refuses (passes _)
  | later passes _ ih =>
    cases first' with
    | here refuses' => exact absurd refuses' (passes _)
    | later _ first' => exact ih first'

theorem not_passes (first : draft.FirstRefusal checks cause) :
    ¬ ∀ check ∈ checks, draft.Passes check := by
  intro all
  induction first with
  | here refuses => exact all _ List.mem_cons_self _ refuses
  | later _ _ ih => exact ih fun check inside => all check (List.mem_cons_of_mem _ inside)

theorem append (first : draft.FirstRefusal checks cause) (later : List Check) :
    draft.FirstRefusal (checks ++ later) cause := by
  induction first with
  | here refuses => exact .here refuses
  | later passes _ ih => exact .later passes ih

theorem after {earlier : List Check} (passed : ∀ check ∈ earlier, draft.Passes check)
    (first : draft.FirstRefusal checks cause) : draft.FirstRefusal (earlier ++ checks) cause := by
  induction earlier with
  | nil => exact first
  | cons check earlier ih =>
    exact .later (passed check List.mem_cons_self)
      (ih fun other inside => passed other (List.mem_cons_of_mem _ inside))

end FirstRefusal

/-- What comes of checks that are made one after the other: the first refusal, or something else
when all are passed. -/
inductive Follows (draft : Draft) (checks : List Check) : Except Error α → Prop
  | passed (all : ∀ check ∈ checks, draft.Passes check) (content : α) :
    Follows draft checks (.ok content)
  | refused {cause : RuleError} (first : draft.FirstRefusal checks cause) :
    Follows draft checks (.error (.rule cause))

namespace Follows

variable {checks later : List Check}

/-- **Further checks are made only if the first ones are passed.** -/
theorem bind {result : Except Error α} {next : α → Except Error β}
    (follows : draft.Follows checks result)
    (goesOn : ∀ content, result = .ok content → draft.Follows later (next content)) :
    draft.Follows (checks ++ later) (result >>= next) := by
  cases follows with
  | refused first => exact .refused (first.append later)
  | passed all content =>
    show draft.Follows (checks ++ later) (next content)
    have rest := goesOn content rfl
    generalize next content = further at rest
    cases rest with
    | refused first => exact .refused (first.after all)
    | passed all' content => exact .passed (List.forall_mem_append.mpr ⟨all, all'⟩) content

/-- What is made of the content afterwards does not matter. -/
theorem map {result : Except Error α} (follows : draft.Follows checks result)
    (next : α → β) : draft.Follows checks (result >>= fun content => pure (next content)) := by
  rw [← List.append_nil checks]
  exact follows.bind fun content _ => .passed (List.forall_mem_nil _) (next content)

theorem cons {check : Check} {result : Except Error α} (passes : draft.Passes check)
    (follows : draft.Follows checks result) : draft.Follows (check :: checks) result := by
  cases follows with
  | passed all content => exact .passed (List.forall_mem_cons.mpr ⟨passes, all⟩) content
  | refused first => exact .refused (.later passes first)

/-- A single check is followed by reading a field, if it refuses what is written as no content. -/
theorem single {check : Check} {result : Except RuleError α} {value : Value} {write : α → Value}
    {cause : RuleError} (accepts : ∀ content, result = .ok content ↔ value = write content)
    (fails : ∀ other, result = .error other → other = cause)
    (refuses : ∀ other, check.Refuses draft other ↔
      (∀ content, value ≠ write content) ∧ other = cause) :
    draft.Follows [check] (result.mapError .rule) := by
  cases found : result with
  | ok content =>
    refine .passed (List.forall_mem_singleton.mpr fun other wrong => ?_) content
    exact ((refuses other).mp wrong).1 content ((accepts content).mp found)
  | error other =>
    refine .refused (.here ((refuses other).mpr ⟨fun content same => ?_, fails other found⟩))
    cases found.symm.trans ((accepts content).mpr same)

end Follows

/-! ### Single fields -/

section Fields

variable (draft : Draft)

theorem follows_interval :
    draft.Follows [.interval] (draft.interval.asInterval.mapError .rule) := by
  refine .single (fun _ => Value.asInterval_eq_ok_iff) (fun _ => Value.asInterval_eq_error) ?_
  intro cause
  constructor
  · intro refuses
    cases refuses with
    | interval wrong => exact ⟨fun interval => wrong interval.val interval.property, rfl⟩
  · rintro ⟨wrong, rfl⟩
    exact .interval fun number valid => wrong ⟨number, valid⟩

theorem follows_weekday (item : Value) :
    draft.Follows [.weekday item] ((item.asWeekday (.ofField .daysOfWeek)).mapError .rule) := by
  refine .single (fun _ => Value.asWeekday_eq_ok_iff) (fun _ => Value.asWeekday_eq_error) ?_
  intro cause
  rw [Value.ne_ofWeekday_iff]
  constructor
  · intro refuses
    cases refuses with
    | weekday wrong => exact ⟨wrong, rfl⟩
  · rintro ⟨wrong, rfl⟩
    exact .weekday wrong

theorem follows_monthDay :
    draft.Follows [.monthDay] (draft.monthDay.asMonthDay.mapError .rule) := by
  refine .single (fun _ => Value.asMonthDay_eq_ok_iff) (fun _ => Value.asMonthDay_eq_error) ?_
  intro cause
  constructor
  · intro refuses
    cases refuses with
    | monthDay wrong => exact ⟨fun day => wrong day.number ⟨day.one_le, day.le_last⟩, rfl⟩
  · rintro ⟨wrong, rfl⟩
    exact .monthDay fun number valid => wrong ⟨number, valid.1, valid.2⟩

theorem follows_ordinal :
    draft.Follows [.ordinal] (draft.monthWeek.asOrdinal.mapError .rule) := by
  refine .single (fun _ => Value.asOrdinal_eq_ok_iff) (fun _ => Value.asOrdinal_eq_error) ?_
  intro cause
  constructor
  · intro refuses
    cases refuses with
    | ordinal unknown => exact ⟨unknown, rfl⟩
  · rintro ⟨unknown, rfl⟩
    exact .ordinal unknown

theorem follows_ordinalWeekday :
    draft.Follows [.ordinalWeekday]
      ((draft.monthWeekDay.asWeekday (.ofField .monthWeekDay)).mapError .rule) := by
  refine .single (fun _ => Value.asWeekday_eq_ok_iff) (fun _ => Value.asWeekday_eq_error) ?_
  intro cause
  rw [Value.ne_ofWeekday_iff]
  constructor
  · intro refuses
    cases refuses with
    | ordinalWeekday wrong => exact ⟨wrong, rfl⟩
  · rintro ⟨wrong, rfl⟩
    exact .ordinalWeekday wrong

theorem follows_startDate :
    draft.Follows [.startDate] (draft.startDate.asStartDate.mapError .rule) := by
  refine .single (fun _ => Value.asStartDate_eq_ok_iff) (fun _ => Value.asStartDate_eq_error) ?_
  intro cause
  constructor
  · intro refuses
    cases refuses with
    | startDate wrong => exact ⟨wrong, rfl⟩
  · rintro ⟨wrong, rfl⟩
    exact .startDate wrong

/-- An end date is checked for being one, and then against the start. -/
theorem follows_endDate {start : Date} (begins : draft.startDate = .date start) :
    draft.Follows [.endDate, .order] ((draft.endDate.asEndDate start).mapError .rule) := by
  cases checked : draft.endDate.asEndDate start with
  | ok endDate =>
    have ends := Value.asEndDate_eq_ok_iff.mp checked
    refine .passed (List.forall_mem_cons.mpr ⟨?_, List.forall_mem_singleton.mpr ?_⟩) endDate
    · intro cause refuses
      cases refuses with
      | endDate given wrong =>
        obtain ⟨_ | last, _⟩ := endDate
        · exact given ends
        · exact wrong last ends
    · intro cause refuses
      cases refuses with
      | order begins' ends' before =>
        obtain ⟨_ | last, ordered⟩ := endDate
        · cases ends.symm.trans ends'
        · cases begins.symm.trans begins'
          cases ends.symm.trans ends'
          exact absurd (ordered _ rfl) (Int.not_le.mpr before)
  | error cause =>
    rcases Value.asEndDate_eq_error checked with ⟨given, wrong, rfl⟩ | ⟨last, ends, before, rfl⟩
    · exact .refused (.here (.endDate given wrong))
    · refine .refused (.later ?_ (.here (.order begins ends before)))
      intro cause refuses
      cases refuses with
      | endDate _ wrong => exact wrong last ends

/-- Listed items are checked one after the other. -/
theorem follows_items (items : List Value) :
    draft.Follows (items.map .weekday)
      ((items.mapM fun item : Value => item.asWeekday (.ofField .daysOfWeek)).mapError .rule) := by
  induction items with
  | nil => exact .passed (List.forall_mem_nil _) []
  | cons item items ih =>
    rw [List.mapM_cons, mapError_bind]
    refine (draft.follows_weekday item).bind fun weekday _ => ?_
    rw [mapError_bind, ← List.append_nil (items.map _)]
    exact ih.bind fun weekdays _ => .passed (List.forall_mem_nil _) (weekday :: weekdays)

/-- Weekdays are checked for being listed at all, and then one after the other. -/
theorem follows_weekdays {items : List Value} (days : draft.daysOfWeek = .list items) :
    draft.Follows (.someWeekday :: items.map .weekday) draft.daysOfWeek.asWeekdays := by
  rw [days]
  cases items with
  | nil => exact .refused (.here (.someWeekday days))
  | cons item items =>
    have filled : draft.Passes .someWeekday := by
      intro cause refuses
      cases refuses with
      | someWeekday empty => cases days.symm.trans empty
    rw [Value.asWeekdays_list, ← List.append_nil (List.map _ _)]
    refine .cons filled ((draft.follows_items (item :: items)).bind fun weekdays read => ?_)
    cases weekdays with
    | nil =>
      have weekdays := (mapM_eq_ok_iff fun _ _ => Value.asWeekday_eq_ok_iff).mp
        (mapError_eq_ok_iff.mp read)
      cases weekdays
    | cons first others => exact .passed (List.forall_mem_nil _) (WeekdaySet.ofList first others)

end Fields

end Draft

/-! ### Drafts -/

variable {kind : Kind} {draft : Draft} {items : List Value}

/-- The fields of a kind are checked in their order. -/
theorem Pattern.ofDraft_follows (days : draft.daysOfWeek = .list items) :
    draft.Follows (kind.ownChecks items) (Pattern.ofDraft kind draft) := by
  cases kind with
  | daily => exact .passed (List.forall_mem_nil _) Pattern.daily
  | yearly => exact .passed (List.forall_mem_nil _) Pattern.yearly
  | weekly => exact (draft.follows_weekdays days).map Pattern.weekly
  | monthlyByDay => exact draft.follows_monthDay.map Pattern.monthlyByDay
  | monthlyByWeekday =>
    show draft.Follows ([.ordinal] ++ [.ordinalWeekday]) (Pattern.ofDraft .monthlyByWeekday draft)
    refine draft.follows_ordinal.bind fun ordinal _ => ?_
    exact draft.follows_ordinalWeekday.map (Pattern.monthlyByWeekday ordinal)

/-- **The checks of a kind report the first refusal.** -/
theorem Rule.ofDraft_follows (days : draft.daysOfWeek = .list items) :
    draft.Follows (kind.checks items) (Rule.ofDraft kind draft) := by
  refine draft.follows_interval.bind fun interval _ => ?_
  refine (Pattern.ofDraft_follows days).bind fun pattern _ => ?_
  refine draft.follows_startDate.bind fun start begins => ?_
  replace begins := Value.asStartDate_eq_ok_iff.mp (mapError_eq_ok_iff.mp begins)
  exact (draft.follows_endDate begins).map _

/-- The fields of other kinds are not looked at. -/
theorem Rule.ofDraft_congr {other : Draft}
    (same : ∀ field ∈ [.interval, .startDate, .endDate] ++ kind.ownFields,
      other.get field = draft.get field) : ofDraft kind other = ofDraft kind draft :=
  Draft.ReadsAlike.ofDraft_eq fun field own => same field own ▸ .refl field _

namespace Draft

theorem kind?_of_named (named : draft.recurrenceType = .text kind.name) :
    draft.kind? = some kind := by
  unfold kind?
  rw [named]
  cases kind <;> rfl

theorem kind?_of_unknown (unknown : ∀ kind : Kind, draft.recurrenceType ≠ .text kind.name) :
    draft.kind? = none :=
  List.find?_eq_none.mpr fun kind _ => by simpa using unknown kind

theorem toRule_of_named (named : draft.recurrenceType = .text kind.name)
    (listed : kind = .weekly → draft.daysOfWeek = .list items) :
    draft.toRule = Rule.ofDraft kind draft := by
  by_cases weekly : kind = .weekly
  · exact weekly ▸ toRule_of_weekly (weekly ▸ named) (listed weekly)
  · exact toRule_of_ne_weekly named weekly

/-- **The checks of a draft report the first refusal.** -/
theorem toRule_follows (days : draft.daysOfWeek = .list items) :
    draft.Follows (draft.checks items) draft.toRule := by
  rcases Value.asKind_cases draft.recurrenceType with ⟨kind, named⟩ | refused
  · have passes : draft.Passes .kind := by
      intro cause refuses
      cases refuses with
      | kind unknown => exact unknown kind named
    rw [toRule_of_named named fun _ => days, checks, kind?_of_named named]
    exact .cons passes (Rule.ofDraft_follows days)
  · have unknown (kind : Kind) : draft.recurrenceType ≠ .text kind.name := by
      intro named
      rw [named, Value.asKind_name] at refused
      cases refused
    rw [toRule_of_unknown refused, checks, kind?_of_unknown unknown]
    exact .refused (.here (.kind unknown))

/-- Drafts that differ in the fields of other kinds only are the same to the checks. -/
theorem toRule_congr {other : Draft} (days : draft.daysOfWeek = .list items)
    (same : ∀ field ∈ draft.ownFields, other.get field = draft.get field) :
    other.toRule = draft.toRule := by
  have named' : other.recurrenceType = draft.recurrenceType :=
    same .recurrenceType List.mem_cons_self
  rcases Value.asKind_cases draft.recurrenceType with ⟨kind, named⟩ | refused
  · rw [ownFields, kind?_of_named named] at same
    have listed (weekly : kind = .weekly) : other.daysOfWeek = .list items := by
      rw [← days]
      refine same .daysOfWeek ?_
      rw [weekly]
      decide
    rw [toRule_of_named (named'.trans named) listed, toRule_of_named named fun _ => days]
    exact Rule.ofDraft_congr fun field own => same field (List.mem_cons_of_mem _ own)
  · rw [toRule_of_unknown refused, toRule_of_unknown (named' ▸ refused), named']

/-- **A draft whose weekdays are listed is refused for the first check that it does not pass,
whatever the later ones would say.** The cause is that of this check, unless what the check refuses
has too many digits to be shown. If it passes all of them, it is made into the rule that its
fields hold, with its weekdays in increasing order. The fields of other kinds make no
difference. -/
theorem toRule_reports (days : draft.daysOfWeek = .list items) :
    (∀ failure, draft.toRule = .error failure ↔
      ∃ cause, failure = .rule cause ∧ draft.FirstRefusal (draft.checks items) cause) ∧
    ((∀ check ∈ draft.checks items, draft.Passes check) →
      ∃ rule, draft.toRule = .ok rule ∧ draft.Holds rule ∧
        rule.pattern.weekdayNumbers.Pairwise (· < ·)) ∧
    ∀ other : Draft, (∀ field ∈ draft.ownFields, other.get field = draft.get field) →
      other.toRule = draft.toRule := by
  have follows := toRule_follows days
  refine ⟨fun failure => ?_, fun passes => ?_, fun other same => toRule_congr days same⟩
  · cases made : draft.toRule with
    | ok rule =>
      rw [made] at follows
      cases follows with
      | passed all =>
        refine ⟨nofun, ?_⟩
        rintro ⟨cause, rfl, first⟩
        exact absurd all first.not_passes
    | error refusal =>
      rw [made] at follows
      cases follows with
      | refused first =>
        constructor
        · rintro ⟨⟩
          exact ⟨_, rfl, first⟩
        · rintro ⟨cause, rfl, first'⟩
          rw [first.unique first']
  · cases made : draft.toRule with
    | ok rule =>
      exact ⟨rule, rfl, toRule_eq_ok_iff.mp made, rule.pattern.weekdayNumbers_increasing⟩
    | error refusal =>
      rw [made] at follows
      cases follows with
      | refused first => exact absurd passes first.not_passes

/-- A weekly draft that lists a weekday too many, and on which nothing that comes later is right
either. -/
def mistaken : Draft where
  recurrenceType := .text "weekly"
  startDate := .text "soon"
  interval := .int 2
  endDate := .bool true
  daysOfWeek := .list [.int 3, .int 7, .text "Sunday"]
  monthDay := .int 0
  monthWeek := .null
  monthWeekDay := .list []

/-- Of several mistakes the first one is reported, here the weekday 7, whatever the fields of other
kinds hold. -/
theorem toRule_reports_weekday :
    mistaken.daysOfWeek = .list [.int 3, .int 7, .text "Sunday"] ∧
    mistaken.toRule = .error (.rule (.invalidWeekday (.ofField .daysOfWeek) (.int 7))) ∧
    ∀ other : Draft, (∀ field ∈ mistaken.ownFields, other.get field = mistaken.get field) →
      other.toRule = .error (.rule (.invalidWeekday (.ofField .daysOfWeek) (.int 7))) := by
  have days : mistaken.daysOfWeek = .list [.int 3, .int 7, .text "Sunday"] := rfl
  obtain ⟨reports, _, others⟩ := toRule_reports days
  have kind : mistaken.Passes .kind := by
    intro cause refuses
    cases refuses with
    | kind unknown => exact unknown .weekly rfl
  have interval : mistaken.Passes .interval := by
    intro cause refuses
    cases refuses with
    | interval wrong => exact wrong 2 (by decide) rfl
  have filled : mistaken.Passes .someWeekday := by
    intro cause refuses
    cases refuses with
    | someWeekday empty => cases empty
  have wednesday : mistaken.Passes (.weekday (.int 3)) := by
    intro cause refuses
    cases refuses with
    | weekday wrong => exact wrong 3 (by decide) rfl
  have wrong : ∀ number : Int, 0 ≤ number ∧ number ≤ 6 → Value.int 7 ≠ .int number := by
    rintro _ ⟨_, le_six⟩ ⟨⟩
    exact absurd le_six (by decide)
  have refused := (reports _).mpr ⟨_, rfl,
    .later kind (.later interval (.later filled (.later wednesday (.here (.weekday wrong)))))⟩
  rw [RuleError.showing_int (by decide)] at refused
  exact ⟨days, refused, fun other same => (others other same).trans refused⟩

/-- A daily draft with an interval below one that has a digit too many to be shown. -/
def boundless : Draft where
  recurrenceType := .text "daily"
  startDate := .date ⟨739677, by decide, by decide⟩
  interval := .int (-(Nat.pow 10 maxDigits : Int))
  endDate := .null
  daysOfWeek := .list []
  monthDay := .null
  monthWeek := .null
  monthWeekDay := .null

/-- Its kind is known, so its interval is what is wrong first. But neither is the interval reported
as invalid, nor any field named: showing the interval fails in another way. -/
theorem toRule_boundless :
    boundless.daysOfWeek = .list [] ∧ boundless.Passes .kind ∧
      (∀ number : Int, 1 ≤ number → boundless.interval ≠ .int number) ∧
      boundless.toRule = .error (.rule .unwritable) ∧
      ¬ ∃ cause : RuleError, boundless.toRule = .error (.rule cause) ∧
        cause.code = "InvalidInterval" ∧ cause.field = .ofField .interval := by
  have kind : boundless.Passes .kind := by
    intro cause refuses
    cases refuses with
    | kind unknown => exact unknown .daily rfl
  have large := word_le_pow_maxDigits
  have wrong (number : Int) (positive : 1 ≤ number) : boundless.interval ≠ .int number := by
    intro same
    have equal : -(Nat.pow 10 maxDigits : Int) = number := Value.int.inj same
    omega
  have unshown : ¬ boundless.interval.isWritable = true := by
    show ¬ (Value.int (-(Nat.pow 10 maxDigits : Int))).isWritable = true
    rw [Value.isWritable_int, IsWritable, Int.natAbs_neg, Int.natAbs_natCast]
    exact Nat.lt_irrefl _
  have refusal : Check.interval.Refuses boundless .unwritable :=
    RuleError.showing_of_not_isWritable unshown ▸ .interval wrong
  have follows : boundless.Follows (boundless.checks []) boundless.toRule := toRule_follows rfl
  have first : boundless.FirstRefusal (boundless.checks []) .unwritable :=
    .later kind (.here refusal)
  have refused : boundless.toRule = .error (.rule .unwritable) := by
    generalize boundless.toRule = result at follows ⊢
    cases follows with
    | passed all => exact absurd all first.not_passes
    | refused first' => rw [first.unique first']
  refine ⟨rfl, kind, wrong, refused, ?_⟩
  rintro ⟨cause, same, code, _⟩
  cases refused.symm.trans same
  exact absurd code (by decide)

end Draft

end Recurrence
