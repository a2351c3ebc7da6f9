/-
**The course of a rule, and what a bound cuts off it.**

The course of a rule is the list of all its dates up to the end of the calendar. A bound takes a
beginning of it: the dates up to the end dates (`Rule.IsWithin`), and of these as many as the count
admits (`CountLimit.cut`).

* `CountLimit.cut_whole`: a whole number of dates is that many dates from the front;
* `CountLimit.getElem?_cut`: a date is kept exactly when the count admits as many dates;
* `Rule.pairwise_course`: a course is strictly increasing;
* `Rule.getElem?_selection`: a date of the course is taken exactly when it is within the ends and
  the count admits as many dates;
* `Rule.exists_dated_of_dates`: only a bound with a count or an end date is admitted;
* `Rule.dates_eq`: the dates of a rule under a bound are what the bound takes of the course, unless
  the first year after the start cannot be reported.
-/
import Recurrence.Sequence.Dates
import Recurrence.Proofs.Sequence.Progress

namespace Recurrence

/-! ### Counting -/

namespace CountLimit

variable {α : Type}

/-- The items from the front on, after some others, until the count is reached. -/
def cutFrom (limit : CountLimit) (produced : Nat) : List α → List α
  | [] => []
  | item :: items =>
    item :: if limit.isReached ((produced + 1 : Nat) : Int) then []
      else limit.cutFrom (produced + 1) items

/-- The items from the front on until the count is reached. -/
def cut (limit : CountLimit) (items : List α) : List α := limit.cutFrom 0 items

/-- The count admits so many items: it is not reached by fewer, except by none. -/
def Admits (limit : CountLimit) (number : Nat) : Prop :=
  ∀ fewer : Nat, 1 ≤ fewer → fewer < number → limit.isReached (fewer : Int) = false

theorem admits_one (limit : CountLimit) : limit.Admits 1 :=
  fun _ positive fewer => absurd fewer (Nat.not_lt.mpr positive)

/-- A whole number admits as many items. -/
theorem admits_whole {count : Int} (one_le : 1 ≤ count) {number : Nat} :
    (whole count one_le).Admits number ↔ (number : Int) ≤ count := by
  simp only [Admits, isReached, decide_eq_false_iff_not]
  constructor
  · intro admits
    by_cases some : (number : Int) ≤ 1
    · omega
    · have fewer := admits (number - 1) (by omega) (by omega)
      omega
  · intro bound fewer _ less
    omega

theorem cutFrom_sublist (limit : CountLimit) :
    ∀ (produced : Nat) (items : List α), (limit.cutFrom produced items).Sublist items
  | _, [] => List.Sublist.refl _
  | produced, item :: items => by
    unfold cutFrom
    refine List.Sublist.cons_cons item ?_
    split
    · exact List.nil_sublist items
    · exact cutFrom_sublist limit (produced + 1) items

theorem getElem?_cutFrom (limit : CountLimit) :
    ∀ (produced : Nat) (items : List α) (index : Nat) (item : α),
      (limit.cutFrom produced items)[index]? = some item ↔
        items[index]? = some item ∧
          ∀ fewer : Nat, produced < fewer → fewer ≤ produced + index →
            limit.isReached (fewer : Int) = false
  | _, [], index, item => by simp [cutFrom]
  | produced, first :: items, 0, item => by
    simp only [cutFrom, List.getElem?_cons_zero, Nat.add_zero]
    exact ⟨fun found => ⟨found, fun fewer above below => by omega⟩, fun both => both.1⟩
  | produced, first :: items, index + 1, item => by
    simp only [cutFrom, List.getElem?_cons_succ]
    by_cases reached : limit.isReached ((produced + 1 : Nat) : Int) = true
    · rw [if_pos reached]
      refine ⟨fun found => by simp at found, fun both => ?_⟩
      have notReached := both.2 (produced + 1) (by omega) (by omega)
      rw [reached] at notReached
      cases notReached
    · rw [if_neg reached, getElem?_cutFrom limit (produced + 1) items index item]
      refine and_congr_right fun _ => ⟨fun admits fewer above below => ?_, fun admits fewer above
        below => admits fewer (by omega) (by omega)⟩
      by_cases next : fewer = produced + 1
      · rw [next]
        exact Bool.eq_false_iff.mpr reached
      · exact admits fewer (by omega) (by omega)

/-- **An item is kept exactly when the count admits as many items.** -/
theorem getElem?_cut (limit : CountLimit) (items : List α) (index : Nat) (item : α) :
    (limit.cut items)[index]? = some item ↔
      items[index]? = some item ∧ limit.Admits (index + 1) := by
  unfold cut Admits
  rw [getElem?_cutFrom]
  refine and_congr_right fun _ => ⟨fun kept fewer positive less => ?_, fun admits fewer above
    below => ?_⟩
  · exact kept fewer positive (by omega)
  · exact admits fewer above (by omega)

/-- **A whole number of items is that many from the front.** -/
theorem cut_whole {count : Int} (one_le : 1 ≤ count) (items : List α) :
    (whole count one_le).cut items = items.take count.toNat := by
  apply List.ext_getElem?
  intro index
  apply Option.ext
  intro item
  rw [getElem?_cut, admits_whole, List.getElem?_take]
  by_cases kept : index < count.toNat
  · rw [if_pos kept]
    exact and_iff_left (by omega)
  · rw [if_neg kept]
    refine ⟨fun both => ?_, fun none => by cases none⟩
    have bound := both.2
    omega

end CountLimit

/-! ### The course of a rule -/

/-- Of an increasing list, the items in front on which a predicate holds that only later items fail
are all items on which it holds. -/
theorem getElem?_takeWhile {predicate : Date → Bool} {dates : List Date}
    (increasing : dates.Pairwise (· < ·))
    (closed : ∀ earlier later : Date, earlier < later → predicate later = true →
      predicate earlier = true) {index : Nat} {date : Date} :
    (dates.takeWhile predicate)[index]? = some date ↔
      dates[index]? = some date ∧ predicate date = true := by
  induction dates generalizing index with
  | nil => simp
  | cons first others ih =>
    obtain ⟨after, increasing⟩ := List.pairwise_cons.mp increasing
    by_cases holds : predicate first = true
    · rw [List.takeWhile_cons_of_pos holds]
      cases index with
      | zero =>
        simp only [List.getElem?_cons_zero, Option.some.injEq]
        refine ⟨fun same => ⟨same, ?_⟩, fun both => both.1⟩
        rw [← same]
        exact holds
      | succ index => exact ih increasing
    · rw [List.takeWhile_cons_of_neg holds]
      refine ⟨fun found => by simp at found, fun ⟨found, holds'⟩ => absurd ?_ holds⟩
      cases index with
      | zero =>
        simp only [List.getElem?_cons_zero, Option.some.injEq] at found
        rw [found]
        exact holds'
      | succ index =>
        have member : date ∈ others := List.mem_of_getElem? found
        exact closed first date (after date member) holds'

namespace Rule

/-- The dates of a rule up to the end of the calendar, from one of them on that has a number,
counted from one. -/
def courseFrom (rule : Rule) (step : Nat) (current : Date) : List Date :=
  current ::
    match rule.next current step with
    | .error _ => []
    | .ok next => if _after : current < next then rule.courseFrom (step + 1) next else []
termination_by current.daysLeft
decreasing_by exact Date.daysLeft_lt ‹current < next›

/-- All dates of a rule up to the end of the calendar. -/
def course (rule : Rule) : List Date := rule.courseFrom 1 rule.startDate

variable {rule : Rule} {step : Nat} {current : Date}

theorem courseFrom_ok {next : Date} (found : rule.next current step = .ok next)
    (later : current < next) :
    rule.courseFrom step current = current :: rule.courseFrom (step + 1) next := by
  rw [courseFrom, found]
  simp only [dif_pos later]

theorem courseFrom_error {cause : CalendarError} (ended : rule.next current step = .error cause) :
    rule.courseFrom step current = [current] := by
  rw [courseFrom, ended]

theorem le_of_mem_courseFrom (rule : Rule) (step : Nat) (current : Date) :
    ∀ date ∈ rule.courseFrom step current, current ≤ date := by
  intro date member
  rw [courseFrom] at member
  rcases List.mem_cons.mp member with rfl | member
  · exact Int.le_refl _
  · split at member
    · cases member
    · rename_i next _
      split at member
      · rename_i later
        have onward := le_of_mem_courseFrom rule (step + 1) next date member
        exact Int.le_trans (Int.le_of_lt later) onward
      · cases member
termination_by current.daysLeft
decreasing_by exact Date.daysLeft_lt ‹_›

theorem pairwise_courseFrom (rule : Rule) (step : Nat) (current : Date) :
    (rule.courseFrom step current).Pairwise (· < ·) := by
  rw [courseFrom]
  split
  · exact List.pairwise_singleton _ _
  · rename_i next _
    split
    · rename_i later
      have onward := pairwise_courseFrom rule (step + 1) next
      refine List.pairwise_cons.mpr ⟨fun date member => ?_, onward⟩
      exact Int.lt_of_lt_of_le later (le_of_mem_courseFrom rule (step + 1) next date member)
    · exact List.pairwise_singleton _ _
termination_by current.daysLeft
decreasing_by exact Date.daysLeft_lt ‹_›

/-- **A course is strictly increasing.** -/
theorem pairwise_course (rule : Rule) : rule.course.Pairwise (· < ·) :=
  pairwise_courseFrom rule 1 rule.startDate

theorem getElem?_courseFrom_zero (rule : Rule) (step : Nat) (current : Date) :
    (rule.courseFrom step current)[0]? = some current := by
  rw [courseFrom]
  rfl

/-- From each of its dates on, the course goes on with that date. The induction is on how many dates
later. -/
theorem drop_courseFrom {index : Nat} {date : Date}
    (found : (rule.courseFrom step current)[index]? = some date) :
    (rule.courseFrom step current).drop index = rule.courseFrom (step + index) date := by
  induction index generalizing step current with
  | zero =>
    rw [getElem?_courseFrom_zero, Option.some_inj] at found
    rw [found]
    rfl
  | succ index ih =>
    have place : step + (index + 1) = step + 1 + index := by omega
    rw [courseFrom, List.getElem?_cons_succ] at found
    rw [courseFrom, List.drop_succ_cons, place]
    cases step' : rule.next current step with
    | error cause => simp [step'] at found
    | ok next =>
      simp only [step'] at found ⊢
      split at found
      · rename_i later
        rw [dif_pos later]
        exact ih found
      · simp at found

/-- Rules that go on alike, but for the numbers that they have reached, have the same course. The
induction is on the days left in the calendar. -/
theorem courseFrom_congr {other : Rule} {offset : Nat}
    (sameNext : ∀ (current : Date) (step : Nat),
      other.next current step = rule.next current ((offset + step : Nat) : Int))
    (step : Nat) (current : Date) :
    other.courseFrom step current = rule.courseFrom (offset + step) current := by
  rw [courseFrom, courseFrom, sameNext]
  cases rule.next current ((offset + step : Nat) : Int) with
  | error cause => rfl
  | ok next =>
    by_cases later : current < next
    · simp only [dif_pos later]
      rw [courseFrom_congr sameNext (step + 1) next, Nat.add_assoc]
    · simp only [dif_neg later]
termination_by current.daysLeft
decreasing_by exact Date.daysLeft_lt later

theorem getElem?_course_zero (rule : Rule) : rule.course[0]? = some rule.startDate :=
  rule.getElem?_courseFrom_zero 1 rule.startDate

/-- **A rule on course stays on course** at all its later dates. The induction is on how many dates
later. -/
theorem OnCourse.of_getElem? (onCourse : rule.OnCourse step current) (positive : 1 ≤ step)
    {index : Nat} {date : Date} (found : (rule.courseFrom step current)[index]? = some date) :
    rule.OnCourse (step + index) date := by
  induction index generalizing step current with
  | zero =>
    rw [getElem?_courseFrom_zero, Option.some_inj] at found
    exact found ▸ onCourse
  | succ index ih =>
    have place : step + (index + 1) = step + 1 + index := by omega
    have advance := onCourse.advance positive
    cases next : rule.next current step with
    | error cause =>
      rw [courseFrom_error next] at found
      simp at found
    | ok later =>
      rw [next] at advance
      cases advance with
      | later after stays =>
        rw [courseFrom_ok next after, List.getElem?_cons_succ] at found
        rw [place]
        exact ih stays (by omega) found

end Rule

/-! ### End dates -/

/-- A bound with a count and an end date, each of which may be missing. -/
def Bound.dated (maxCount : CountLimit) (hardEnd : Option Date) : Bound where
  maxCount := maxCount
  hardEndDate := .ofOption .date hardEnd

/-- The earlier of two end dates, each of which may be missing. -/
def earlierDate : Option Date → Option Date → Option Date
  | none, other => other
  | some first, none => some first
  | some first, some second => some (if second < first then second else first)

/-- A date is past the earlier end exactly when it is past one of them. -/
theorem forall_mem_earlierDate {first second : Option Date} {date : Date} :
    (∀ last ∈ earlierDate first second, date ≤ last) ↔
      (∀ last ∈ first, date ≤ last) ∧ ∀ last ∈ second, date ≤ last := by
  cases first with
  | none => simp [earlierDate]
  | some first =>
    cases second with
    | none => simp [earlierDate]
    | some second =>
      simp only [earlierDate, Option.mem_some_iff, forall_eq', Date.le_def, Date.lt_def]
      split <;> omega

theorem earlierEnd_ofOption (hardEnd ruleEnd : Option Date) :
    earlierEnd (.ofOption .date hardEnd) (.ofOption .date ruleEnd) =
      .ok (.ofOption .date (earlierDate hardEnd ruleEnd)) := by
  cases hardEnd with
  | none => rfl
  | some hard =>
    cases ruleEnd with
    | none => rfl
    | some last =>
      have order := Value.compare_less_date last hard
      by_cases before : last < hard <;>
        simp [earlierEnd, earlierDate, Value.ofOption, order, before, bind, Except.bind, pure,
          Except.pure]

theorem isPastEnd_ofOption (maxCount : CountLimit) (last : Option Date) (date : Date) :
    Limits.isPastEnd ⟨maxCount, .ofOption .date last⟩ (.date date) =
      .ok (!decide (∀ final ∈ last, date ≤ final)) := by
  cases last with
  | none => simp [Limits.isPastEnd, Value.ofOption]
  | some last =>
    have notPast : (∀ final ∈ some last, date ≤ final) ↔ ¬ last < date := by
      simp only [Option.mem_some_iff, forall_eq', Date.le_def, Date.lt_def, Int.not_lt]
    rw [Value.ofOption, Limits.isPastEnd_date, decide_eq_decide.mpr notPast, decide_not,
      Bool.not_not]

namespace Rule

/-- Something limits the dates of the rule: a count, a hard end, or an end of its own. -/
def IsBounded (rule : Rule) (maxCount : CountLimit) (hardEnd : Option Date) : Prop :=
  maxCount ≠ .unlimited ∨ hardEnd ≠ none ∨ rule.endDate ≠ none

/-- The date is past neither the hard end nor the rule's own. -/
def IsWithin (rule : Rule) (hardEnd : Option Date) (date : Date) : Prop :=
  (∀ last ∈ hardEnd, date ≤ last) ∧ ∀ last ∈ rule.endDate, date ≤ last

instance (rule : Rule) (maxCount : CountLimit) (hardEnd : Option Date) :
    Decidable (rule.IsBounded maxCount hardEnd) :=
  inferInstanceAs (Decidable (_ ∨ _ ∨ _))

instance (rule : Rule) (hardEnd : Option Date) (date : Date) :
    Decidable (rule.IsWithin hardEnd date) :=
  inferInstanceAs (Decidable (_ ∧ _))

theorem isBounded_whole (rule : Rule) {count : Int} (one_le : 1 ≤ count)
    (hardEnd : Option Date) : rule.IsBounded (.whole count one_le) hardEnd :=
  Or.inl (by simp)

/-- Where nothing ends the dates, every date is within the ends. -/
theorem isWithin_none {rule : Rule} (unended : rule.endDate = none) (date : Date) :
    rule.IsWithin none date := by
  simp [IsWithin, unended]

/-! ### The dates under a bound -/

/-- What a bound takes of the course of a rule: the dates within the ends, as many of them as the
count admits. -/
def selection (rule : Rule) (maxCount : CountLimit) (hardEnd : Option Date) : List Date :=
  maxCount.cut (rule.course.takeWhile (rule.IsWithin hardEnd ·))

theorem IsWithin.of_le {rule : Rule} {hardEnd : Option Date} {earlier later : Date}
    (within : rule.IsWithin hardEnd later) (order : earlier ≤ later) :
    rule.IsWithin hardEnd earlier :=
  ⟨fun last hard => Int.le_trans order (within.1 last hard),
    fun last own => Int.le_trans order (within.2 last own)⟩

theorem selection_sublist (rule : Rule) (maxCount : CountLimit) (hardEnd : Option Date) :
    (rule.selection maxCount hardEnd).Sublist rule.course :=
  (maxCount.cutFrom_sublist 0 _).trans (List.takeWhile_sublist _)

/-- The course up to the ends is what lies within them. -/
theorem getElem?_takeWhile_isWithin {rule : Rule} {hardEnd : Option Date} {index : Nat}
    {date : Date} :
    (rule.course.takeWhile (rule.IsWithin hardEnd ·))[index]? = some date ↔
      rule.course[index]? = some date ∧ rule.IsWithin hardEnd date := by
  rw [getElem?_takeWhile rule.pairwise_course, decide_eq_true_iff]
  intro earlier later order within
  rw [decide_eq_true_iff] at within ⊢
  exact within.of_le (Int.le_of_lt order)

theorem mem_takeWhile_isWithin {rule : Rule} {hardEnd : Option Date} {date : Date} :
    date ∈ rule.course.takeWhile (rule.IsWithin hardEnd ·) ↔
      date ∈ rule.course ∧ rule.IsWithin hardEnd date := by
  simp only [List.mem_iff_getElem?, getElem?_takeWhile_isWithin, exists_and_right]

/-- **A date of the course is taken exactly when it is within the ends and the count admits as many
dates.** -/
theorem getElem?_selection {rule : Rule} {maxCount : CountLimit} {hardEnd : Option Date}
    {index : Nat} {date : Date} :
    (rule.selection maxCount hardEnd)[index]? = some date ↔
      rule.course[index]? = some date ∧ rule.IsWithin hardEnd date ∧
        maxCount.Admits (index + 1) := by
  unfold selection
  rw [CountLimit.getElem?_cut, getElem?_takeWhile_isWithin, and_assoc]

/-- The first year after the start is asked for, but has too many digits to be reported. -/
def IsUnreportable (rule : Rule) (maxCount : CountLimit) (hardEnd : Option Date) : Prop :=
  rule.IsWithin hardEnd rule.startDate ∧ maxCount.isReached 1 = false ∧
    ¬ IsWritable (rule.soughtYear rule.startDate 1)

instance (rule : Rule) (maxCount : CountLimit) (hardEnd : Option Date) :
    Decidable (rule.IsUnreportable maxCount hardEnd) :=
  inferInstanceAs (Decidable (_ ∧ _ ∧ _))

/-- **A rule on course produces what the limits take of its course.** The induction is on the days
left in the calendar. -/
theorem sequenceFrom_dates (maxCount : CountLimit) (last : Option Date) (rule : Rule)
    (produced : Array Date) (current : Date)
    (onCourse : rule.OnCourse (produced.size + 1) current) :
    (rule.sequenceFrom ⟨maxCount, .ofOption .date last⟩ produced current).map (·.dates) =
      .ok (produced.toList ++ current ::
        if maxCount.isReached ((produced.size + 1 : Nat) : Int) then []
        else maxCount.cutFrom (produced.size + 1)
          ((rule.courseFrom (produced.size + 1) current).tail.takeWhile
            fun date => decide (∀ final ∈ last, date ≤ final))) := by
  have size : (produced.push current).size = produced.size + 1 := Array.size_push ..
  have list : (produced.push current).toList = produced.toList ++ [current] := Array.toList_push
  have advance := onCourse.advance (by omega)
  rw [sequenceFrom]
  simp only [size, list]
  by_cases reached : maxCount.isReached ((produced.size + 1 : Nat) : Int) = true
  · rw [if_pos reached, if_pos reached]
    rfl
  · rw [if_neg reached, if_neg reached]
    cases step : rule.next current ((produced.size + 1 : Nat) : Int) with
    | error cause =>
      rw [step] at advance
      obtain ⟨⟩ | ⟨overflow⟩ := advance
      simp only [if_pos overflow]
      rw [courseFrom_error step]
      rfl
    | ok next =>
      rw [step] at advance
      cases advance with
      | later after stays =>
        have following : current.following (produced.push current) next = .ok ⟨next, after⟩ :=
          dif_pos after
        simp only [following, isPastEnd_ofOption]
        rw [courseFrom_ok step after, List.tail_cons]
        obtain ⟨others, course⟩ : ∃ others,
            rule.courseFrom (produced.size + 1 + 1) next = next :: others := by
          rw [courseFrom]
          exact ⟨_, rfl⟩
        by_cases within : ∀ final ∈ last, next ≤ final
        · have stays' : rule.OnCourse ((produced.push current).size + 1) next := by
            rw [size]
            exact stays
          have rest := sequenceFrom_dates maxCount last rule (produced.push current) next
            stays'
          rw [size, list, course, List.tail_cons] at rest
          rw [decide_eq_true within, course,
            List.takeWhile_cons_of_pos (by simpa using within), CountLimit.cutFrom]
          refine rest.trans ?_
          rw [List.append_assoc, List.singleton_append]
        · rw [decide_eq_false within, course,
            List.takeWhile_cons_of_neg (by simpa using within)]
          rfl
termination_by current.daysLeft
decreasing_by exact Date.daysLeft_lt after

variable {rule : Rule} {maxCount : CountLimit} {hardEnd : Option Date}

theorem limits_dated_ok (bounded : rule.IsBounded maxCount hardEnd) :
    (Bound.dated maxCount hardEnd).limits (.ofOption .date rule.endDate) =
      .ok ⟨maxCount, .ofOption .date (earlierDate hardEnd rule.endDate)⟩ := by
  have limited : ¬ (maxCount = .unlimited ∧
      Value.ofOption Value.date (earlierDate hardEnd rule.endDate) = .null) := by
    rintro ⟨noCount, noEnd⟩
    rcases bounded with count | hard | own
    · exact count noCount
    · cases hardEnd with
      | none => exact hard rfl
      | some hard =>
        cases ended : rule.endDate <;> simp [ended, earlierDate, Value.ofOption] at noEnd
    · cases ended : rule.endDate with
      | none => exact own ended
      | some last => cases hardEnd <;> simp [ended, earlierDate, Value.ofOption] at noEnd
  unfold Bound.limits Bound.dated
  simp only [earlierEnd_ofOption]
  show (if _ then _ else _) = _
  rw [if_neg limited]
  rfl

/-- **Without a count and an end date there are no dates.** -/
theorem dates_unbounded (unbounded : ¬ rule.IsBounded maxCount hardEnd) :
    rule.dates (.dated maxCount hardEnd) = .error (.sequence .unbounded) := by
  simp only [IsBounded, not_or, Decidable.not_not] at unbounded
  obtain ⟨noCount, noHardEnd, noEnd⟩ := unbounded
  unfold dates sequence
  rw [noCount, noHardEnd, noEnd]
  rfl

/-- A date is compared with no value but a date. -/
theorem exists_date_of_compare {comparison : Comparison} {date : Date} {value : Value}
    {holds : Bool} (compared : Value.compare comparison (.date date) value = .ok holds) :
    ∃ other, value = .date other := by
  cases value with
  | date other => exact ⟨other, rfl⟩
  | _ => simp [Value.compare, Value.number?] at compared

/-- **The bounds under which a rule has dates are those with a count or an end date.** -/
theorem exists_dated_of_dates {rule : Rule} {bound : Bound} {dates : List Date}
    (admitted : rule.dates bound = .ok dates) :
    ∃ maxCount hardEnd, bound = .dated maxCount hardEnd ∧ rule.IsBounded maxCount hardEnd := by
  obtain ⟨maxCount, hardEnd⟩ := bound
  have dated : hardEnd = .null ∨ ∃ last, hardEnd = .date last := by
    by_cases missing : hardEnd = .null
    · exact Or.inl missing
    · right
      -- The end is compared with the rule's own end, or else with the start.
      unfold Rule.dates sequence Bound.limits at admitted
      cases ended : rule.endDate with
      | none =>
        have kept : (earlierEnd hardEnd .null).mapError Error.mismatch = .ok hardEnd := by
          cases hardEnd <;> rfl
        have past : Limits.isPastEnd ⟨maxCount, hardEnd⟩ (.date rule.startDate) =
            Value.compare .greater (.date rule.startDate) hardEnd := by
          unfold Limits.isPastEnd
          split
          · exact absurd ‹_› missing
          · rfl
        cases compared : Value.compare .greater (.date rule.startDate) hardEnd with
        | ok holds => exact exists_date_of_compare compared
        | error cause =>
          have refused : (Limits.isPastEnd ⟨maxCount, hardEnd⟩ (.date rule.startDate)).mapError
              Error.mismatch = .error (.mismatch cause) := by
            rw [past, compared]
            rfl
          simp [ended, Value.ofOption, kept, missing, refused, bind, Except.bind, Except.map, pure,
            Except.pure] at admitted
      | some last =>
        have chosen : earlierEnd hardEnd (.date last) =
            (Value.compare .less (.date last) hardEnd).bind fun before =>
              .ok (if before then .date last else hardEnd) := by
          cases hardEnd <;> first | exact absurd rfl missing | rfl
        cases compared : Value.compare .less (.date last) hardEnd with
        | ok holds => exact exists_date_of_compare compared
        | error cause =>
          have refused : (earlierEnd hardEnd (.date last)).mapError Error.mismatch =
              .error (.mismatch cause) := by
            rw [chosen, compared]
            rfl
          simp [ended, Value.ofOption, refused, bind, Except.bind, Except.map] at admitted
  have limited (end' : Option Date)
      (same : (⟨maxCount, hardEnd⟩ : Bound) = .dated maxCount end') :
      rule.IsBounded maxCount end' := by
    rw [same] at admitted
    by_cases bounded : rule.IsBounded maxCount end'
    · exact bounded
    · rw [dates_unbounded bounded] at admitted
      cases admitted
  rcases dated with rfl | ⟨last, rfl⟩
  · exact ⟨maxCount, none, rfl, limited none rfl⟩
  · exact ⟨maxCount, some last, rfl, limited (some last) rfl⟩

/-- The bound is past the start already, or the dates begin with the start. -/
theorem dates_bounded (bounded : rule.IsBounded maxCount hardEnd) :
    rule.dates (.dated maxCount hardEnd) =
      if rule.IsWithin hardEnd rule.startDate then
        (rule.sequenceFrom ⟨maxCount, .ofOption .date (earlierDate hardEnd rule.endDate)⟩ #[]
          rule.startDate).map (·.dates)
      else .ok [] := by
  unfold dates sequence
  rw [limits_dated_ok bounded]
  have within_iff : (∀ last ∈ earlierDate hardEnd rule.endDate, rule.startDate ≤ last) ↔
      rule.IsWithin hardEnd rule.startDate := forall_mem_earlierDate
  have past : (Limits.isPastEnd ⟨maxCount, .ofOption .date (earlierDate hardEnd rule.endDate)⟩
      (.date rule.startDate)).mapError Error.mismatch =
        .ok (!decide (∀ last ∈ earlierDate hardEnd rule.endDate, rule.startDate ≤ last)) := by
    rw [isPastEnd_ofOption]
    rfl
  simp only [bind, Except.bind, past]
  by_cases within : rule.IsWithin hardEnd rule.startDate
  · rw [if_pos within, decide_eq_true (within_iff.mpr within)]
    rfl
  · rw [if_neg within, decide_eq_false fun all => within (within_iff.mp all)]
    rfl

/-- **The dates of a rule under a bound are what the bound takes of the course,** unless the first
year after the start is asked for and cannot be reported. -/
theorem dates_eq (bounded : rule.IsBounded maxCount hardEnd) :
    rule.dates (.dated maxCount hardEnd) =
      if rule.IsUnreportable maxCount hardEnd then .error (.calendar .unwritable)
      else .ok (rule.selection maxCount hardEnd) := by
  obtain ⟨others, course⟩ : ∃ others, rule.course = rule.startDate :: others := by
    unfold Rule.course
    rw [courseFrom]
    exact ⟨_, rfl⟩
  rw [dates_bounded bounded]
  unfold selection
  rw [course]
  by_cases within : rule.IsWithin hardEnd rule.startDate
  · rw [if_pos within, List.takeWhile_cons_of_pos (by simpa using within), CountLimit.cut,
      CountLimit.cutFrom]
    by_cases reached : maxCount.isReached 1 = true
    · have reportable : ¬ rule.IsUnreportable maxCount hardEnd := fun unreportable => by
        have notReached := unreportable.2.1
        rw [reached] at notReached
        cases notReached
      rw [if_neg reportable, sequenceFrom]
      simp only [List.push_toArray, List.nil_append, List.size_toArray, List.length_singleton,
        Int.natCast_one, Nat.zero_add, if_pos reached]
      rfl
    · by_cases writable : IsWritable (rule.soughtYear rule.startDate 1)
      · have reportable : ¬ rule.IsUnreportable maxCount hardEnd := fun unreportable =>
          unreportable.2.2 writable
        have steps := sequenceFrom_dates maxCount (earlierDate hardEnd rule.endDate) rule #[]
          rule.startDate
          (onCourse_start writable)
        have tail : (rule.courseFrom 1 rule.startDate).tail = others := by
          show rule.course.tail = others
          rw [course, List.tail_cons]
        rw [if_neg reportable]
        refine steps.trans ?_
        simp only [List.size_toArray, List.length_nil, Nat.zero_add, tail, List.nil_append,
          forall_mem_earlierDate]
        rfl
      · have unreportable : rule.IsUnreportable maxCount hardEnd :=
          ⟨within, Bool.eq_false_iff.mpr reached, writable⟩
        rw [if_pos unreportable, sequenceFrom]
        simp only [List.push_toArray, List.nil_append, List.size_toArray, List.length_singleton,
          Int.natCast_one, if_neg reached, next_unwritable writable]
        rfl
  · have reportable : ¬ rule.IsUnreportable maxCount hardEnd := fun unreportable =>
      within unreportable.1
    rw [if_neg within, if_neg reportable, List.takeWhile_cons_of_neg (by simpa using within)]
    rfl

theorem dates_eq_ok (bounded : rule.IsBounded maxCount hardEnd)
    (reportable : ¬ rule.IsUnreportable maxCount hardEnd) :
    rule.dates (.dated maxCount hardEnd) = .ok (rule.selection maxCount hardEnd) := by
  rw [dates_eq bounded, if_neg reportable]

/-- Dates that can be had are what the bound takes of the course. -/
theorem selection_of_dates {dates : List Date}
    (produced : rule.dates (.dated maxCount hardEnd) = .ok dates) :
    ¬ rule.IsUnreportable maxCount hardEnd ∧ rule.selection maxCount hardEnd = dates := by
  by_cases bounded : rule.IsBounded maxCount hardEnd
  · rw [dates_eq bounded] at produced
    split at produced
    · cases produced
    · rename_i reportable
      exact ⟨reportable, Except.ok.inj produced⟩
  · rw [dates_unbounded bounded] at produced
    cases produced

end Rule

end Recurrence
