/-
**Tighter bounds.**

Every bound takes a beginning of the course of a rule. So of two bounds one takes a beginning of
what the other takes, and the fewer dates up to the earlier end are the shorter of the two lists. It
makes no difference whether an end date is the rule's own or the bound's. Only a year that cannot be
reported leaves a looser bound without dates where a tighter one has some.

* `Rule.selection_prefix`: a bound takes a beginning of the course;
* `Rule.selection_fewer`: both of two bounds take the shorter of the two lists;
* `Rule.isUnreportable_fewer`: both of two bounds ask for a year if each of them does;
* `Rule.dates_endless`: the end of a rule may as well be the bound's;
* `Rule.dates_tighter`: the dates under two bounds and under both of them.
-/
import Recurrence.Proofs.Sequence.Outcome

namespace Recurrence

/-! ### Counts -/

namespace CountLimit

/-- A whole number of dates, or no limit if it is missing. -/
def ofCount : Option { count : Int // 1 ≤ count } → CountLimit
  | none => unlimited
  | some ⟨count, one_le⟩ => whole count one_le

/-- The smaller of two counts, each of which may be missing. -/
def fewer : Option { count : Int // 1 ≤ count } → Option { count : Int // 1 ≤ count } →
    Option { count : Int // 1 ≤ count }
  | none, other => other
  | some first, none => some first
  | some first, some second => some (if second.val < first.val then second else first)

theorem admits_unlimited (number : Nat) : unlimited.Admits number := fun _ _ _ => rfl

/-- The smaller of two counts admits as many dates as both of them admit. -/
theorem admits_fewer {first second : Option { count : Int // 1 ≤ count }} {number : Nat} :
    (ofCount (fewer first second)).Admits number ↔
      (ofCount first).Admits number ∧ (ofCount second).Admits number := by
  cases first with
  | none => exact (and_iff_right (admits_unlimited number)).symm
  | some first =>
    cases second with
    | none => exact (and_iff_left (admits_unlimited number)).symm
    | some second =>
      simp only [fewer, ofCount, admits_whole]
      split <;> omega

/-- A count lets the sequence go on after its first date exactly when it admits two. -/
theorem admits_two {limit : CountLimit} : limit.Admits 2 ↔ limit.isReached 1 = false := by
  refine ⟨fun admits => admits 1 (by omega) (by omega), fun goesOn fewer positive less => ?_⟩
  obtain rfl : fewer = 1 := by omega
  exact goesOn

theorem cutFrom_prefix {α : Type} (limit : CountLimit) :
    ∀ (produced : Nat) (items : List α), limit.cutFrom produced items <+: items
  | _, [] => List.prefix_rfl
  | produced, item :: items => by
    unfold cutFrom
    refine List.cons_prefix_cons.mpr ⟨rfl, ?_⟩
    split
    · exact List.nil_prefix
    · exact cutFrom_prefix limit (produced + 1) items

end CountLimit

open CountLimit (ofCount fewer)

namespace Rule

variable {rule : Rule} {firstCount secondCount : Option { count : Int // 1 ≤ count }}
  {firstEnd secondEnd : Option Date}

/-! ### Both of two bounds -/

/-- **A bound takes a beginning of the course.** -/
theorem selection_prefix (rule : Rule) (maxCount : CountLimit) (hardEnd : Option Date) :
    rule.selection maxCount hardEnd <+: rule.course :=
  (maxCount.cutFrom_prefix 0 _).trans (List.takeWhile_prefix _)

/-- Without a count, all dates of the course within the ends are taken. -/
theorem mem_selection_unlimited {hardEnd : Option Date} {date : Date} :
    date ∈ rule.selection .unlimited hardEnd ↔ date ∈ rule.course ∧ rule.IsWithin hardEnd date := by
  simp only [List.mem_iff_getElem?, getElem?_selection,
    and_iff_left (CountLimit.admits_unlimited _), exists_and_right]

/-- A date lies within the earlier of two hard ends if it lies within both. -/
theorem isWithin_earlierDate {date : Date} :
    rule.IsWithin (earlierDate firstEnd secondEnd) date ↔
      rule.IsWithin firstEnd date ∧ rule.IsWithin secondEnd date := by
  simp only [IsWithin, forall_mem_earlierDate]
  exact and_and_right

/-- Of two beginnings of a list, the shorter one has the items that both have. -/
theorem getElem?_shorter {first second course : List Date} (firstTaken : first <+: course)
    (secondTaken : second <+: course) {index : Nat} {date : Date} :
    (if first.length ≤ second.length then first else second)[index]? = some date ↔
      first[index]? = some date ∧ second[index]? = some date := by
  split
  · rename_i shorter
    obtain ⟨rest, same⟩ := List.prefix_of_prefix_length_le firstTaken secondTaken shorter
    refine (and_iff_left_of_imp fun found => ?_).symm
    rw [← same, List.getElem?_append_left (List.getElem?_eq_some_iff.mp found).1, found]
  · rename_i longer
    obtain ⟨rest, same⟩ := List.prefix_of_prefix_length_le secondTaken firstTaken (by omega)
    refine (and_iff_right_of_imp fun found => ?_).symm
    rw [← same, List.getElem?_append_left (List.getElem?_eq_some_iff.mp found).1, found]

/-- **The fewer dates up to the earlier end are the shorter of two lists.** -/
theorem selection_fewer (rule : Rule) (firstCount secondCount : Option { count : Int // 1 ≤ count })
    (firstEnd secondEnd : Option Date) :
    rule.selection (ofCount (fewer firstCount secondCount)) (earlierDate firstEnd secondEnd) =
      if (rule.selection (ofCount firstCount) firstEnd).length ≤
          (rule.selection (ofCount secondCount) secondEnd).length then
        rule.selection (ofCount firstCount) firstEnd
      else rule.selection (ofCount secondCount) secondEnd := by
  refine List.ext_getElem? fun index => Option.ext fun date => ?_
  rw [getElem?_shorter (rule.selection_prefix ..) (rule.selection_prefix ..)]
  simp only [getElem?_selection, isWithin_earlierDate, CountLimit.admits_fewer]
  rw [and_and_and_comm, and_and_left]

/-- **Both of two bounds ask for a year that cannot be reported if each of them does.** -/
theorem isUnreportable_fewer :
    rule.IsUnreportable (ofCount (fewer firstCount secondCount)) (earlierDate firstEnd secondEnd) ↔
      rule.IsUnreportable (ofCount firstCount) firstEnd ∧
        rule.IsUnreportable (ofCount secondCount) secondEnd := by
  simp only [IsUnreportable, ← CountLimit.admits_two, isWithin_earlierDate,
    CountLimit.admits_fewer]
  exact (and_congr_right fun _ => and_and_right).trans and_and_and_comm

/-- A bound that asks for a year that cannot be reported would take the start at least. -/
theorem IsUnreportable.one_le_length {maxCount : CountLimit} {hardEnd : Option Date}
    (unreportable : rule.IsUnreportable maxCount hardEnd) :
    1 ≤ (rule.selection maxCount hardEnd).length := by
  refine List.length_pos_iff.mpr fun empty => ?_
  exact (rule.produces_selection maxCount hardEnd).empty_iff.mp empty unreportable.1

/-- Where the first year after the start cannot be reported, a bound that does not ask for it takes
the start at most. -/
theorem length_selection_le_one {maxCount : CountLimit} {hardEnd : Option Date}
    (unwritable : ¬ IsWritable (rule.soughtYear rule.startDate 1))
    (reportable : ¬ rule.IsUnreportable maxCount hardEnd) :
    (rule.selection maxCount hardEnd).length ≤ 1 := by
  refine Nat.le_of_not_lt fun longer => reportable ?_
  obtain ⟨taken, within, admits⟩ := getElem?_selection.mp (List.getElem?_eq_getElem longer)
  have begun : rule.startDate ≤ (rule.selection maxCount hardEnd)[1] :=
    rule.le_of_mem_courseFrom 1 rule.startDate _ (List.mem_of_getElem? taken)
  exact ⟨within.of_le begun, CountLimit.admits_two.mp admits, unwritable⟩

theorem IsBounded.fewer (bounded : rule.IsBounded (ofCount firstCount) firstEnd) :
    rule.IsBounded (ofCount (fewer firstCount secondCount)) (earlierDate firstEnd secondEnd) := by
  rcases bounded with count | hard | own
  · refine Or.inl ?_
    cases firstCount with
    | none => exact absurd rfl count
    | some first => cases secondCount <;> nofun
  · refine Or.inr (Or.inl ?_)
    cases firstEnd with
    | none => exact absurd rfl hard
    | some first => cases secondEnd <;> nofun
  · exact Or.inr (Or.inr own)

/-! ### Ends of rules -/

/-- The rule without its end date. -/
def endless (rule : Rule) : Rule :=
  { rule with endDate := none, start_le_end := fun _ ended => (Option.not_mem_none _ ended).elim }

theorem next_endless (rule : Rule) (current : Date) (step : Int) :
    rule.endless.next current step = rule.next current step :=
  rfl

theorem courseFrom_endless (rule : Rule) (step : Nat) (current : Date) :
    rule.endless.courseFrom step current = rule.courseFrom step current := by
  have sameNext (current : Date) (step : Nat) :
      rule.endless.next current step = rule.next current ((0 + step : Nat) : Int) := by
    rw [Nat.zero_add, next_endless]
  rw [courseFrom_congr sameNext, Nat.zero_add]

theorem isWithin_endless {hardEnd : Option Date} {date : Date} :
    rule.endless.IsWithin (earlierDate hardEnd rule.endDate) date ↔ rule.IsWithin hardEnd date := by
  have unended : ∀ last ∈ rule.endless.endDate, date ≤ last := nofun
  simp only [IsWithin, forall_mem_earlierDate, and_iff_left unended]

theorem isBounded_endless {maxCount : CountLimit} {hardEnd : Option Date} :
    rule.endless.IsBounded maxCount (earlierDate hardEnd rule.endDate) ↔
      rule.IsBounded maxCount hardEnd := by
  have ends : earlierDate hardEnd rule.endDate ≠ none ↔ hardEnd ≠ none ∨ rule.endDate ≠ none := by
    cases hardEnd <;> cases rule.endDate <;> simp [earlierDate]
  have unended : ¬ rule.endless.endDate ≠ none := fun ended => ended rfl
  simp only [IsBounded, ends, or_iff_left unended]

theorem isUnreportable_endless {maxCount : CountLimit} {hardEnd : Option Date} :
    rule.endless.IsUnreportable maxCount (earlierDate hardEnd rule.endDate) ↔
      rule.IsUnreportable maxCount hardEnd :=
  and_congr_left fun _ => isWithin_endless

theorem selection_endless (rule : Rule) (maxCount : CountLimit) (hardEnd : Option Date) :
    rule.endless.selection maxCount (earlierDate hardEnd rule.endDate) =
      rule.selection maxCount hardEnd := by
  unfold selection course
  rw [courseFrom_endless]
  simp only [isWithin_endless]
  rfl

/-- **The end date of a rule may as well be the bound's.** -/
theorem dates_endless (rule : Rule) (maxCount : CountLimit) (hardEnd : Option Date) :
    rule.endless.dates (.dated maxCount (earlierDate hardEnd rule.endDate)) =
      rule.dates (.dated maxCount hardEnd) := by
  by_cases bounded : rule.IsBounded maxCount hardEnd
  · rw [dates_eq bounded, dates_eq (isBounded_endless.mpr bounded), selection_endless]
    simp only [isUnreportable_endless]
  · have unbounded := fun limited => bounded (isBounded_endless.mp limited)
    rw [dates_unbounded bounded, dates_unbounded unbounded]

/-! ### Dates under tighter bounds -/

/-- **Of two bounds one gives a beginning of what the other gives, and both of them together give
the shorter list,** unless a year that cannot be reported is asked for. A bound that asks for it
gives no dates, and both together give what the other one gives. -/
theorem dates_tighter (rule : Rule) (firstCount secondCount : Option { count : Int // 1 ≤ count })
    (firstEnd secondEnd : Option Date)
    (firstBounded : rule.IsBounded (ofCount firstCount) firstEnd)
    (secondBounded : rule.IsBounded (ofCount secondCount) secondEnd) :
    let first := rule.dates (.dated (ofCount firstCount) firstEnd)
    let second := rule.dates (.dated (ofCount secondCount) secondEnd)
    let both := rule.dates
      (.dated (ofCount (fewer firstCount secondCount)) (earlierDate firstEnd secondEnd))
    (if rule.IsUnreportable (ofCount firstCount) firstEnd then
        first = .error (.calendar .unwritable) ∧ both = second
      else if rule.IsUnreportable (ofCount secondCount) secondEnd then
        second = .error (.calendar .unwritable) ∧ both = first
      else ∃ firstDates secondDates,
        first = .ok firstDates ∧ second = .ok secondDates ∧
          (firstDates <+: secondDates ∨ secondDates <+: firstDates) ∧
          both = .ok (if firstDates.length ≤ secondDates.length then firstDates
            else secondDates)) ∧
      rule.endless.dates (.dated (ofCount firstCount) (earlierDate firstEnd rule.endDate)) =
        first := by
  intro first second both
  refine ⟨?_, rule.dates_endless (ofCount firstCount) firstEnd⟩
  have bothBounded : rule.IsBounded (ofCount (fewer firstCount secondCount))
      (earlierDate firstEnd secondEnd) := firstBounded.fewer
  have firstEq : first = _ := dates_eq firstBounded
  have secondEq : second = _ := dates_eq secondBounded
  have bothEq : both = _ := dates_eq bothBounded
  have firstTaken := rule.selection_prefix (ofCount firstCount) firstEnd
  have secondTaken := rule.selection_prefix (ofCount secondCount) secondEnd
  simp only [isUnreportable_fewer, selection_fewer] at bothEq
  by_cases firstAsks : rule.IsUnreportable (ofCount firstCount) firstEnd
  · rw [if_pos firstAsks] at firstEq ⊢
    refine ⟨firstEq, ?_⟩
    by_cases secondAsks : rule.IsUnreportable (ofCount secondCount) secondEnd
    · rw [bothEq, secondEq, if_pos ⟨firstAsks, secondAsks⟩, if_pos secondAsks]
    · have firstLength := firstAsks.one_le_length
      have secondLength := length_selection_le_one firstAsks.2.2 secondAsks
      rw [bothEq, secondEq, if_neg fun asks => secondAsks asks.2, if_neg secondAsks]
      split
      · rename_i shorter
        have within := List.prefix_of_prefix_length_le firstTaken secondTaken shorter
        rw [within.eq_of_length (by omega)]
      · rfl
  · rw [if_neg firstAsks] at firstEq ⊢
    rw [if_neg fun asks => firstAsks asks.1] at bothEq
    by_cases secondAsks : rule.IsUnreportable (ofCount secondCount) secondEnd
    · have firstLength := length_selection_le_one secondAsks.2.2 firstAsks
      have secondLength := secondAsks.one_le_length
      rw [if_pos secondAsks] at secondEq ⊢
      refine ⟨secondEq, ?_⟩
      rw [bothEq, firstEq, if_pos (by omega)]
    · rw [if_neg secondAsks] at secondEq ⊢
      exact ⟨_, _, firstEq, secondEq, List.prefix_or_prefix_of_prefix firstTaken secondTaken,
        bothEq⟩

/-- Every third day of March 2026. -/
def everyThirdDay : Rule where
  pattern := .daily
  interval := 3
  startDate := distant.startDate
  endDate := some ⟨739706, by decide, by decide⟩
  one_le_interval := by decide
  start_le_end := by decide

/-- No first year after the start is looked for in a daily rule. -/
theorem not_isUnreportable_everyThirdDay (maxCount : CountLimit) (hardEnd : Option Date) :
    ¬ everyThirdDay.IsUnreportable maxCount hardEnd :=
  not_isUnreportable_of_daily_or_weekly (Or.inl rfl) maxCount hardEnd

/-- Five such days, those up to the ninth of March, and those of the five up to then. -/
theorem dates_tighter_everyThirdDay :
    everyThirdDay.IsBounded (.whole 5 (by decide)) none ∧
      everyThirdDay.IsBounded .unlimited (some ⟨739684, by decide, by decide⟩) ∧
      (∃ firstDates secondDates,
        everyThirdDay.dates (.dated (.whole 5 (by decide)) none) = .ok firstDates ∧
        everyThirdDay.dates (.dated .unlimited (some ⟨739684, by decide, by decide⟩)) =
          .ok secondDates ∧
        (firstDates <+: secondDates ∨ secondDates <+: firstDates) ∧
        everyThirdDay.dates (.dated (.whole 5 (by decide)) (some ⟨739684, by decide, by decide⟩)) =
          .ok (if firstDates.length ≤ secondDates.length then firstDates else secondDates)) ∧
      everyThirdDay.endless.dates (.dated (.whole 5 (by decide)) everyThirdDay.endDate) =
        everyThirdDay.dates (.dated (.whole 5 (by decide)) none) := by
  have firstBounded : everyThirdDay.IsBounded (.whole 5 (by decide)) none := isBounded_whole ..
  have secondBounded : everyThirdDay.IsBounded .unlimited (some ⟨739684, by decide, by decide⟩) :=
    Or.inr (Or.inl (Option.some_ne_none _))
  have tighter := everyThirdDay.dates_tighter (some ⟨5, by decide⟩) none none
    (some ⟨739684, by decide, by decide⟩) firstBounded secondBounded
  simp only [not_isUnreportable_everyThirdDay, if_false] at tighter
  exact ⟨firstBounded, secondBounded, tighter⟩

/-- Of a yearly rule with an interval of 4300 digits the first date can be had, but not the first
two, so that neither list is a beginning of the other. -/
theorem dates_distant_counts :
    distant.IsBounded (.whole 1 (by decide)) none ∧
      distant.IsBounded (.whole 2 (by decide)) none ∧
      distant.dates (.dated (.whole 1 (by decide)) none) = .ok [distant.startDate] ∧
      distant.dates (.dated (.whole 2 (by decide)) none) = .error (.calendar .unwritable) := by
  have first : distant.IsBounded (.whole 1 (by decide)) none := isBounded_whole ..
  have second : distant.IsBounded (.whole 2 (by decide)) none := isBounded_whole ..
  have within : distant.IsWithin none distant.startDate := isWithin_none rfl _
  have asks : distant.IsUnreportable (.whole 2 (by decide)) none :=
    isUnreportable_iff.mpr ⟨within, by decide, Or.inr ⟨rfl, not_isWritable_distant⟩⟩
  have reached : ¬ distant.IsUnreportable (.whole 1 (by decide)) none :=
    fun asks => absurd asks.2.1 (by decide)
  have alone := length_selection_le_one asks.2.2 reached
  refine ⟨first, second, ?_, ?_⟩
  · obtain ⟨others, taken⟩ := List.head?_eq_some_iff.mp (head?_selection.mpr ⟨rfl, within⟩)
    rw [taken, List.length_cons] at alone
    rw [dates_eq first, if_neg reached, taken,
      List.length_eq_zero_iff.mp (by omega : others.length = 0)]
  · rw [dates_eq second, if_pos asks]

end Rule

end Recurrence
