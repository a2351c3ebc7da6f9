/-
**What a request can ask for.**

A request makes a call only if each of its parts is accepted. So the numbers of a call are in the
ranges that the parts are checked against.

* `Service.Checked.items_accepted`: what is accepted in a list is accepted for one of its items;
* `Service.Reader.integerWithin_accepted`: an accepted number is in its range;
* `Service.Reader.textOfLength_accepted_iff`: a name is accepted if it has such a length;
* `Service.optionalField_accepted`: an optional part is absent, or accepted;
* `Service.Endpoint.accepted_of_call`: an endpoint accepts a call if it accepts its parts;
* `Service.Call.Accepted.isInRange`: the numbers of such a call are in their ranges;
* `Service.calendar_ranges`: the year, the month and the count that a calendar can be asked for.
-/
import Recurrence.Service.Call

namespace Recurrence.Service

/-! ### Accepted parts -/

theorem Checked.accepted_map_iff {α β : Type} {function : α → β} {content : Checked α}
    {result : β} :
    function <$> content = accepted result ↔ ∃ a, content = accepted a ∧ function a = result := by
  refine accepted_seq_iff.trans ⟨?_, fun ⟨a, found, same⟩ => ⟨function, a, rfl, found, same⟩⟩
  rintro ⟨_, a, pure, found, same⟩
  cases pure
  exact ⟨a, found, same⟩

theorem Checked.ofExcept_accepted_iff {α : Type} {place : List Place} {given : Value}
    {result : Except Refusal α} {content : α} :
    ofExcept place given result = accepted content ↔ result = .ok content := by
  cases result <;> simp [ofExcept]

/-- What is accepted as an item of a list is accepted for one of the items. -/
theorem Checked.items_accepted {α β : Type} {check : Nat → α → Checked β} {given : List α} :
    ∀ {first : Nat} {contents : List β}, items check first given = accepted contents →
      ∀ content ∈ contents, ∃ number, ∃ item ∈ given, check number item = accepted content := by
  induction given with
  | nil =>
    intro first contents read
    cases read
    exact List.forall_mem_nil _
  | cons item given ih =>
    intro first contents read
    obtain ⟨_, later, front, rest, rfl⟩ := accepted_seq_iff.mp read
    obtain ⟨_, own, begun, found, rfl⟩ := accepted_seq_iff.mp front
    cases begun
    refine List.forall_mem_cons.mpr ⟨⟨first, item, List.mem_cons_self, found⟩, ?_⟩
    intro content inside
    obtain ⟨number, other, member, found⟩ := ih rest content inside
    exact ⟨number, other, List.mem_cons_of_mem item member, found⟩

/-- **An accepted number is read from what is given, and in its range.** -/
theorem Reader.integerWithin_accepted {least : Int} {greatest : Option Int} {place : List Place}
    {value : Value} {number : Int}
    (read : integerWithin least greatest place value = .accepted number) :
    IntegerText.ofValue value = .ok number ∧ least ≤ number ∧
      ∀ most ∈ greatest, number ≤ most := by
  have checked := Checked.ofExcept_accepted_iff.mp read
  simp only [] at checked
  cases whole : IntegerText.ofValue value with
  | error reason =>
    rw [whole] at checked
    cases checked
  | ok found =>
    rw [whole] at checked
    by_cases low : found < least
    · simp [low, bind, Except.bind, throw, throwThe, MonadExceptOf.throw] at checked
    · by_cases high : greatest.any (· < found) = true
      · simp [low, high, bind, Except.bind, throw, throwThe, MonadExceptOf.throw] at checked
      · simp [low, high, bind, Except.bind, pure, Except.pure] at checked
        subst checked
        refine ⟨rfl, Int.not_lt.mp low, fun most limit => Int.not_lt.mp fun beyond => high ?_⟩
        rw [Option.mem_def.mp limit]
        simpa using beyond

/-- A part that has to be there is accepted as it is read. -/
theorem field_accepted {α : Type} {parts : Parts} {name : String} {read : Reader α} {content : α}
    (accepted : field parts name read = .accepted content) :
    ∃ place, ∃ entry ∈ parts.entries, read place entry.2 = .accepted content := by
  unfold field at accepted
  split at accepted
  · rename_i given
    exact ⟨_, _, mem_of_lookup given, accepted⟩
  · cases accepted

/-- So is a part with a default, unless it is absent. -/
theorem fieldOr_accepted {α : Type} {otherwise : α} {parts : Parts} {name : String}
    {read : Reader α} {content : α}
    (accepted : fieldOr otherwise parts name read = .accepted content) :
    content = otherwise ∨
      ∃ place, ∃ entry ∈ parts.entries, read place entry.2 = .accepted content := by
  unfold fieldOr at accepted
  split at accepted
  · rename_i given
    exact Or.inr ⟨_, _, mem_of_lookup given, accepted⟩
  · cases accepted
    exact Or.inl rfl

/-- An optional part is absent, or what is accepted. -/
theorem optionalField_accepted {α : Type} {parts : Parts} {name : String} {read : Reader α}
    {content : Option α} (accepted : optionalField parts name read = .accepted content) :
    ∀ part ∈ content, ∃ place, ∃ entry ∈ parts.entries,
      read place entry.2 = .accepted part := by
  intro part member
  rcases fieldOr_accepted accepted with rfl | ⟨place, entry, inside, found⟩
  · cases member
  · unfold Reader.orNull at found
    split at found
    · cases found
      cases member
    · obtain ⟨_, found, same⟩ := Checked.accepted_map_iff.mp found
      rw [← same, Option.mem_some_iff] at member
      rw [← member]
      exact ⟨_, entry, inside, found⟩

/-- An optional number is absent, or in its range. -/
theorem optionalField_within {parts : Parts} {name : String} {least most : Int}
    {number : Option Int}
    (accepted : optionalField parts name (.integerWithin least (some most)) = .accepted number) :
    ∀ part ∈ number, least ≤ part ∧ part ≤ most := by
  intro part member
  obtain ⟨_, _, _, read⟩ := optionalField_accepted accepted part member
  obtain ⟨_, lower, upper⟩ := Reader.integerWithin_accepted read
  exact ⟨lower, upper most rfl⟩

/-- **A name is accepted exactly if it is a text of characters, of which there are as many as there
have to be.** -/
theorem Reader.textOfLength_accepted_iff {least most : Nat} {place : List Place} {value : Value}
    {content : Text} :
    textOfLength least most place value = .accepted content ↔
      value = .text content ∧ content.chars?.isSome = true ∧ least ≤ content.length ∧
        content.length ≤ most := by
  unfold textOfLength ofExcept
  constructor
  · intro read
    simp only [] at read
    split at read
    · split at read
      · cases read
      · rename_i characters
        split at read
        · cases read
        · rename_i long
          split at read
          · cases read
          · rename_i short
            cases read
            refine ⟨rfl, ?_, Nat.not_lt.mp long, Nat.not_lt.mp short⟩
            simpa [Option.isSome_iff_ne_none] using characters
    · cases read
  · rintro ⟨rfl, characters, long, short⟩
    have given : ¬ content.chars?.isNone = true := by
      simpa [Option.isSome_iff_ne_none] using characters
    simp only [if_neg given, if_neg (Nat.not_lt.mpr long), if_neg (Nat.not_lt.mpr short)]
    rfl

/-- A form in a body is read from its named parts. -/
theorem fromBody_accepted {α : Type} {document : Option Value} {read : Parts → Checked α}
    {content : α} (accepted : fromBody document (.form read) = .accepted content) :
    ∃ parts : Parts, document = some (.object parts.entries) ∧ read parts = .accepted content := by
  unfold fromBody Reader.form at accepted
  split at accepted
  · split at accepted
    · exact ⟨_, rfl, accepted⟩
    · cases accepted
  · cases accepted

/-! ### Calls -/

/-- What is accepted for a call: its parts, from the named ones in the body or from the
parameters. -/
inductive Call.Accepted (settings : Settings) (query : Parts) (document : Option Value) :
    Call → Prop
  | health : Accepted settings query document .health
  | validate {form : RuleForm} (rule : fromBody document ruleForm = .accepted form) :
    Accepted settings query document (.validate form)
  | defaults (kind : Text) (anchor : Option Date) :
    Accepted settings query document (.defaults kind anchor)
  | preview {parts : Parts} (body : document = some (.object parts.entries)) {form : RuleForm}
    (rule : field parts "rule" ruleForm = .accepted form) {maxCount : Option Int}
    (count : optionalField parts "max_count" (Endpoint.previewCount settings) = .accepted maxCount)
    (hardEnd : Option Date) : Accepted settings query document (.preview form maxCount hardEnd)
  | calendar {parts : Parts} (body : document = some (.object parts.entries)) {form : RuleForm}
    (rule : field parts "rule" ruleForm = .accepted form) {year month maxCount : Option Int}
    (years : optionalField parts "year" (.integerWithin 1 (some 9999)) = .accepted year)
    (months : optionalField parts "month" (.integerWithin 1 (some 12)) = .accepted month)
    (count : optionalField parts "max_count" (Endpoint.previewCount settings) =
      .accepted maxCount) :
    Accepted settings query document (.calendar form year month maxCount)
  | nthWeekday {year month : Int}
    (years : field query "year" (.integerWithin 1 (some 9999)) = .accepted year)
    (months : field query "month" (.integerWithin 1 (some 12)) = .accepted month) (ordinal : Text)
    {weekday : Int} (weekdays : field query "weekday" .integer = .accepted weekday) :
    Accepted settings query document (.nthWeekday year month ordinal weekday)
  | listDrafts : Accepted settings query document .listDrafts
  | createDraft {parts : Parts} (body : document = some (.object parts.entries)) {name : Text}
    (named : field parts "name" (.textOfLength 1 255) = .accepted name) {form : RuleForm}
    (rule : field parts "rule" ruleForm = .accepted form) :
    Accepted settings query document (.createDraft name form)
  | getDraft (id : Int) : Accepted settings query document (.getDraft id)
  | updateDraft (id : Int) {parts : Parts} (body : document = some (.object parts.entries))
    {expected : Int}
    (version : field parts "expected_version" (.integerWithin 1 none) = .accepted expected)
    {form : RuleForm} (rule : field parts "rule" ruleForm = .accepted form) :
    Accepted settings query document (.updateDraft id expected form)
  | switchDraft (id : Int) {parts : Parts} (body : document = some (.object parts.entries))
    {expected : Int}
    (version : field parts "expected_version" (.integerWithin 1 none) = .accepted expected)
    (kind : Text) (anchor : Option Date) :
    Accepted settings query document (.switchDraft id expected kind anchor)
  | previewDraft (id : Int) {maxCount : Option Int}
    (count : optionalField query "max_count" (Endpoint.previewCount settings) = .accepted maxCount)
    (hardEnd : Option Date) : Accepted settings query document (.previewDraft id maxCount hardEnd)

/-- **An endpoint accepts a call if it accepts its parts.** -/
theorem Endpoint.accepted_of_call {settings : Settings} {query : Parts} {document : Option Value}
    {endpoint : Endpoint} {call : Call}
    (accepted : endpoint.call settings query document = .accepted call) :
    call.Accepted settings query document := by
  cases endpoint with
  | health =>
    cases accepted
    exact .health
  | validate =>
    obtain ⟨form, rule, rfl⟩ := Checked.accepted_map_iff.mp accepted
    exact .validate rule
  | defaults =>
    obtain ⟨parts, body, read⟩ := fromBody_accepted accepted
    obtain ⟨_, anchor, kind, _, rfl⟩ := Checked.accepted_seq_iff.mp read
    obtain ⟨_, _, rfl⟩ := Checked.accepted_map_iff.mp kind
    exact .defaults _ _
  | preview =>
    obtain ⟨parts, body, read⟩ := fromBody_accepted accepted
    obtain ⟨_, hardEnd, upToCount, _, rfl⟩ := Checked.accepted_seq_iff.mp read
    obtain ⟨_, maxCount, form, count, rfl⟩ := Checked.accepted_seq_iff.mp upToCount
    obtain ⟨_, rule, rfl⟩ := Checked.accepted_map_iff.mp form
    exact .preview body rule count _
  | calendar =>
    obtain ⟨parts, body, read⟩ := fromBody_accepted accepted
    obtain ⟨_, maxCount, upToMonth, count, rfl⟩ := Checked.accepted_seq_iff.mp read
    obtain ⟨_, month, upToYear, months, rfl⟩ := Checked.accepted_seq_iff.mp upToMonth
    obtain ⟨_, year, form, years, rfl⟩ := Checked.accepted_seq_iff.mp upToYear
    obtain ⟨_, rule, rfl⟩ := Checked.accepted_map_iff.mp form
    exact .calendar body rule years months count
  | nthWeekday =>
    obtain ⟨_, weekday, upToOrdinal, weekdays, rfl⟩ := Checked.accepted_seq_iff.mp accepted
    obtain ⟨_, ordinal, upToMonth, _, rfl⟩ := Checked.accepted_seq_iff.mp upToOrdinal
    obtain ⟨_, month, upToYear, months, rfl⟩ := Checked.accepted_seq_iff.mp upToMonth
    obtain ⟨year, years, rfl⟩ := Checked.accepted_map_iff.mp upToYear
    exact .nthWeekday years months _ weekdays
  | listDrafts =>
    cases accepted
    exact .listDrafts
  | createDraft =>
    obtain ⟨parts, body, read⟩ := fromBody_accepted accepted
    obtain ⟨_, form, named, rule, rfl⟩ := Checked.accepted_seq_iff.mp read
    obtain ⟨name, characters, rfl⟩ := Checked.accepted_map_iff.mp named
    exact .createDraft body characters rule
  | getDraft id =>
    obtain ⟨number, _, rfl⟩ := Checked.accepted_map_iff.mp accepted
    exact .getDraft number
  | updateDraft id =>
    obtain ⟨_, ⟨expected, form⟩, numbered, read, rfl⟩ := Checked.accepted_seq_iff.mp accepted
    obtain ⟨number, _, rfl⟩ := Checked.accepted_map_iff.mp numbered
    obtain ⟨parts, body, read⟩ := fromBody_accepted read
    obtain ⟨_, _, versioned, rule, same⟩ := Checked.accepted_seq_iff.mp read
    obtain ⟨_, version, rfl⟩ := Checked.accepted_map_iff.mp versioned
    cases same
    exact .updateDraft number body version rule
  | switchDraft id =>
    obtain ⟨_, ⟨expected, kind, anchor⟩, numbered, read, rfl⟩ :=
      Checked.accepted_seq_iff.mp accepted
    obtain ⟨number, _, rfl⟩ := Checked.accepted_map_iff.mp numbered
    obtain ⟨parts, body, read⟩ := fromBody_accepted read
    obtain ⟨_, _, upToKind, _, same⟩ := Checked.accepted_seq_iff.mp read
    obtain ⟨_, _, versioned, _, rfl⟩ := Checked.accepted_seq_iff.mp upToKind
    obtain ⟨_, version, rfl⟩ := Checked.accepted_map_iff.mp versioned
    cases same
    exact .switchDraft number body version _ _
  | previewDraft id =>
    obtain ⟨_, hardEnd, upToCount, _, rfl⟩ := Checked.accepted_seq_iff.mp accepted
    obtain ⟨_, maxCount, numbered, count, rfl⟩ := Checked.accepted_seq_iff.mp upToCount
    obtain ⟨number, _, rfl⟩ := Checked.accepted_map_iff.mp numbered
    exact .previewDraft number count _

/-- The numbers of a call are in the ranges that its parts are checked against, and the name for a
draft is made of characters, from 1 to 255 of them. -/
def Call.IsInRange (settings : Settings) : Call → Prop
  | preview _ maxCount _ | previewDraft _ maxCount _ =>
    ∀ count ∈ maxCount, 1 ≤ count ∧ count ≤ settings.maxPreviewCount
  | calendar _ year month maxCount =>
    (∀ number ∈ year, 1 ≤ number ∧ number ≤ 9999) ∧
      (∀ number ∈ month, 1 ≤ number ∧ number ≤ 12) ∧
      ∀ count ∈ maxCount, 1 ≤ count ∧ count ≤ settings.maxPreviewCount
  | nthWeekday year month _ _ => (1 ≤ year ∧ year ≤ 9999) ∧ 1 ≤ month ∧ month ≤ 12
  | createDraft name _ => name.chars?.isSome = true ∧ 1 ≤ name.length ∧ name.length ≤ 255
  | health | validate _ | defaults .. | listDrafts | getDraft _ | updateDraft .. | switchDraft .. =>
    True

/-- **What is accepted is in range.** -/
theorem Call.Accepted.isInRange {settings : Settings} {query : Parts} {document : Option Value}
    {call : Call} (accepted : call.Accepted settings query document) : call.IsInRange settings := by
  cases accepted with
  | preview _ _ count | previewDraft _ count => exact optionalField_within count
  | calendar _ _ years months count =>
    exact ⟨optionalField_within years, optionalField_within months, optionalField_within count⟩
  | nthWeekday years months =>
    obtain ⟨_, _, _, years⟩ := field_accepted years
    obtain ⟨_, _, _, months⟩ := field_accepted months
    obtain ⟨_, fromYear, toYear⟩ := Reader.integerWithin_accepted years
    obtain ⟨_, fromMonth, toMonth⟩ := Reader.integerWithin_accepted months
    exact ⟨⟨fromYear, toYear 9999 rfl⟩, fromMonth, toMonth 12 rfl⟩
  | createDraft _ named =>
    obtain ⟨_, _, _, characters⟩ := field_accepted named
    exact (Reader.textOfLength_accepted_iff.mp characters).2
  | health | validate | defaults | listDrafts | getDraft | updateDraft | switchDraft => trivial

/-- **A calendar is asked for with a year, a month and a count in their ranges.** -/
theorem calendar_ranges {settings : Settings} {query : Parts} {document : Option Value}
    {form : RuleForm} {year month maxCount : Option Int}
    (made : Endpoint.calendar.call settings query document =
      .accepted (.calendar form year month maxCount)) :
    (∀ number ∈ year, 1 ≤ number ∧ number ≤ 9999) ∧
      (∀ number ∈ month, 1 ≤ number ∧ number ≤ 12) ∧
      ∀ count ∈ maxCount, 1 ≤ count ∧ count ≤ settings.maxPreviewCount :=
  (Endpoint.accepted_of_call made).isInRange

end Recurrence.Service
