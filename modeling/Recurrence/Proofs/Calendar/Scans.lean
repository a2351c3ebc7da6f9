/-
**Dates found by scanning a month.**

The first date of a month on a weekday is found by going on from the first of the month day by day,
the last one by going back from the last of the month. Such a loop needs no bound on its steps:
seven days in a row fall on seven weekdays, so it ends within six steps, and before it leaves the
month.

* `Date.Scan`: the loop, without a bound;
* `Date.Scan.length_eq`: how many steps it takes;
* `Date.walkTo_eq_ok_iff`: a walk of at most six steps is the loop;
* `YearMonth.ScansTo`: a loop that stays in the month;
* `Ordinal.among_datesOn`: the date that a place marks stands at that place among the dates on its
  weekday;
* `YearMonth.Refuses`: the first of ordinal, weekday, month and year that is wrong;
* `MonthForm.onWeekday_listed`: the date with a place and a weekday, how it is found, and what is
  refused.
-/
import Recurrence.Proofs.Calendar.Places

namespace Recurrence

/-! ### The loop -/

namespace Date

/-- The loop that goes on from a date, a stride of days at a time, until it is on a weekday. The
dates that it leaves behind are listed; there are as many as it takes steps. -/
inductive Scan (weekday : Weekday) (stride : Int) : Date → List Date → Date → Prop
  | found {date : Date} (on : date.weekday = weekday) : Scan weekday stride date [] date
  | step {date next target : Date} {passed : List Date} (off : date.weekday ≠ weekday)
    (moved : date.addDays stride = .ok next) (rest : Scan weekday stride next passed target) :
    Scan weekday stride date (date :: passed) target

/-- The number of strides from a date to the next one on a weekday. -/
def stridesTo (weekday : Weekday) (stride : Int) (date : Date) : Int :=
  stride * (weekday.val - date.dayNumber) % 7

theorem dayNumber_of_addDays {date next : Date} {days : Int}
    (moved : date.addDays days = .ok next) : next.dayNumber = date.dayNumber + days := by
  unfold addDays ofDayNumber at moved
  split at moved
  · cases moved
    rfl
  · cases moved

section Daily

variable {weekday : Weekday} {stride : Int} (daily : stride = 1 ∨ stride = -1)

include daily in
theorem stridesTo_eq_zero_iff {date : Date} :
    date.stridesTo weekday stride = 0 ↔ date.weekday = weekday := by
  have short := weekday.isLt
  rw [weekday_eq_iff]
  unfold stridesTo
  rcases daily with rfl | rfl <;> omega

include daily in
/-- A stride off the weekday comes one stride nearer to it. -/
theorem stridesTo_next {date next : Date} (off : date.weekday ≠ weekday)
    (moved : date.addDays stride = .ok next) :
    date.stridesTo weekday stride = next.stridesTo weekday stride + 1 := by
  have left : date.stridesTo weekday stride ≠ 0 :=
    fun here => off ((stridesTo_eq_zero_iff daily).mp here)
  have placed := dayNumber_of_addDays moved
  unfold stridesTo at left ⊢
  rw [placed]
  rcases daily with rfl | rfl <;> omega

namespace Scan

variable {date target : Date} {passed : List Date}

theorem on (scan : Scan weekday stride date passed target) : target.weekday = weekday := by
  induction scan with
  | found on => exact on
  | step _ _ _ ih => exact ih

include daily in
/-- **The loop takes as many steps as there are strides to the weekday.** -/
theorem length_eq (scan : Scan weekday stride date passed target) :
    (passed.length : Int) = date.stridesTo weekday stride := by
  induction scan with
  | found on => exact ((stridesTo_eq_zero_iff daily).mpr on).symm
  | step off moved _ ih =>
    rw [stridesTo_next daily off moved, ← ih]
    rfl

include daily in
/-- **The loop ends within six steps.** -/
theorem length_le (scan : Scan weekday stride date passed target) : passed.length ≤ 6 := by
  have length := scan.length_eq daily
  unfold stridesTo at length
  omega

/-- The dates of the loop lie a stride apart. -/
theorem dayNumber_eq (scan : Scan weekday stride date passed target) {index : Nat} {other : Date}
    (visited : (passed ++ [target])[index]? = some other) :
    other.dayNumber = date.dayNumber + stride * index := by
  induction scan generalizing index with
  | found =>
    cases index with
    | zero =>
      cases visited
      simp
    | succ index => cases visited
  | step _ moved _ ih =>
    cases index with
    | zero =>
      cases visited
      simp
    | succ index =>
      have placed := ih visited
      rw [dayNumber_of_addDays moved] at placed
      rw [placed, Int.natCast_add, Int.natCast_one, Int.mul_add, Int.mul_one]
      omega

/-- A walk of as many steps goes where the loop goes. -/
theorem walkTo_eq (scan : Scan weekday stride date passed target) {steps : Nat}
    (enough : passed.length ≤ steps) : date.walkTo weekday stride steps = .ok target := by
  induction scan generalizing steps with
  | found on =>
    cases steps with
    | zero => rfl
    | succ steps => exact if_pos on
  | step off moved _ ih =>
    rw [List.length_cons] at enough
    obtain ⟨fewer, rfl⟩ : ∃ fewer, steps = fewer + 1 := ⟨steps - 1, by omega⟩
    unfold walkTo
    rw [if_neg off, moved]
    exact ih (by omega)

end Scan

include daily in
/-- A walk of enough steps is a run of the loop. -/
theorem exists_scan_of_walkTo {steps : Nat} {date target : Date}
    (enough : date.stridesTo weekday stride ≤ steps)
    (walked : date.walkTo weekday stride steps = .ok target) :
    ∃ passed, Scan weekday stride date passed target := by
  induction steps generalizing date with
  | zero =>
    have here : date.stridesTo weekday stride = 0 := by
      unfold stridesTo at enough ⊢
      omega
    cases walked
    exact ⟨[], .found ((stridesTo_eq_zero_iff daily).mp here)⟩
  | succ steps ih =>
    unfold walkTo at walked
    by_cases on : date.weekday = weekday
    · rw [if_pos on] at walked
      cases walked
      exact ⟨[], .found on⟩
    · rw [if_neg on] at walked
      obtain ⟨next, moved, further⟩ := bind_eq_ok_iff.mp walked
      have nearer := stridesTo_next daily on moved
      obtain ⟨passed, rest⟩ := ih (by omega) further
      exact ⟨date :: passed, .step on moved rest⟩

include daily in
/-- **A walk of at most six steps is the loop without a bound.** -/
theorem walkTo_eq_ok_iff {date target : Date} :
    date.walkTo weekday stride 6 = .ok target ↔
      ∃ passed, Scan weekday stride date passed target := by
  constructor
  · intro walked
    refine exists_scan_of_walkTo daily ?_ walked
    unfold stridesTo
    omega
  · rintro ⟨passed, scan⟩
    exact scan.walkTo_eq (scan.length_le daily)

end Daily

end Date

/-! ### Scanning a month -/

namespace YearMonth

/-- From a day of the month the loop ends at a date after at most six steps, and it never leaves the
month. -/
def ScansTo (month : YearMonth) (weekday : Weekday) (stride day : Int) (date : Date) : Prop :=
  ∃ start passed, month.onDay day = .ok start ∧ Date.Scan weekday stride start passed date ∧
    passed.length ≤ 6 ∧ ∀ visited ∈ passed ++ [date], visited.yearMonth = month

section Scans

variable {month : YearMonth} {weekday : Weekday} {stride day : Int} {date : Date}
  (daily : stride = 1 ∨ stride = -1) (proper : month.IsMonth)
include daily proper

/-- A loop over seven days of the month stays in the month. -/
theorem scansTo_of_walkTo (within : ∀ steps : Nat, steps ≤ 6 →
      1 ≤ day + stride * steps ∧ day + stride * steps ≤ month.lastDay)
    (found : (month.onDay day).bind (Date.walkTo weekday stride 6) = .ok date) :
    month.ScansTo weekday stride day date := by
  obtain ⟨start, begun, walked⟩ := bind_eq_ok_iff.mp found
  obtain ⟨passed, scan⟩ := (Date.walkTo_eq_ok_iff daily).mp walked
  obtain ⟨own, days⟩ := onDay_eq_ok_iff.mp begun
  have few := scan.length_le daily
  refine ⟨start, passed, begun, scan, few, fun visited inside => ?_⟩
  obtain ⟨index, there⟩ := List.mem_iff_getElem?.mp inside
  have near := (List.getElem?_eq_some_iff.mp there).1
  rw [List.length_append, List.length_singleton] at near
  have placed := scan.dayNumber_eq there
  rw [start.dayNumber_eq, own, days, Int.add_assoc] at placed
  obtain ⟨first, last⟩ := within index (by omega)
  exact (Date.parts_of_dayNumber proper first last placed).1

end Scans

variable {month : YearMonth} (proper : month.IsMonth)
include proper

/-- The first date on a weekday is scanned for from the first of the month. -/
theorem scansTo_firstOn {weekday : Weekday} {date : Date}
    (found : month.firstOn weekday = .ok date) : month.ScansTo weekday 1 1 date := by
  have long : 28 ≤ month.lastDay := le_monthLength month.year month.month
  exact scansTo_of_walkTo (Or.inl rfl) proper (fun steps few => by omega) found

/-- The last date on a weekday is scanned for from the last of the month. -/
theorem scansTo_lastOn {weekday : Weekday} {date : Date} (found : month.lastOn weekday = .ok date) :
    month.ScansTo weekday (-1) month.lastDay date := by
  have long : 28 ≤ month.lastDay := le_monthLength month.year month.month
  have length : month.length = .ok month.lastDay := if_pos proper
  unfold lastOn at found
  rw [length] at found
  exact scansTo_of_walkTo (Or.inr rfl) proper (fun steps few => by omega) found

end YearMonth

/-! ### Places in a list -/

/-- The date at a place among dates in order. -/
def Ordinal.among (dates : List Date) : Ordinal → Option Date
  | first => dates[0]?
  | second => dates[1]?
  | third => dates[2]?
  | fourth => dates[3]?
  | last => dates.getLast?

/-- The dates of a month on a weekday stand in order whole weeks after the first one. -/
theorem YearMonth.getElem?_datesOn {first : Date} (early : first.day ≤ 7) {index : Nat}
    (few : index < if first.day + 28 ≤ first.yearMonth.lastDay then 5 else 4) :
    ∃ date, (first.yearMonth.datesOn first.weekday)[index]? = some date ∧
      date.yearMonth = first.yearMonth ∧ date.weekday = first.weekday ∧
      date.day = first.day + 7 * index := by
  have listed := congrArg (·[index]?) (map_day_datesOn early)
  simp only [List.getElem?_map, List.getElem?_range few, Option.map_some, Option.map_eq_some_iff]
    at listed
  obtain ⟨date, found, day⟩ := listed
  obtain ⟨own, on⟩ := mem_datesOn.mp (List.mem_of_getElem? found)
  exact ⟨date, found, own, on, day⟩

/-- **The date that a place marks stands at that place among the dates on its weekday.** -/
theorem Ordinal.among_datesOn {ordinal : Ordinal} {date : Date} (marks : ordinal.Marks date) :
    ordinal.among (date.yearMonth.datesOn date.weekday) = some date := by
  obtain ⟨first, _, own, on, early⟩ := YearMonth.firstOn_eq_ok (YearMonth.isMonth_yearMonth date)
    (YearMonth.isInCalendar_yearMonth date) date.weekday
  have begun := first.one_le_day
  have short : first.yearMonth.lastDay ≤ 31 := monthLength_le first.year first.month
  rw [← own, ← on]
  -- A date at an index is the marked one if the place marks it, too.
  have marked {index : Nat}
      (few : index < if first.day + 28 ≤ first.yearMonth.lastDay then 5 else 4)
      (marks' : ∀ other : Date, other.yearMonth = first.yearMonth →
        other.day = first.day + 7 * index → ordinal.Marks other) :
      (first.yearMonth.datesOn first.weekday)[index]? = some date := by
    obtain ⟨other, found, month, weekday, day⟩ := YearMonth.getElem?_datesOn early few
    have same : other = date :=
      (marks' other month day).unique marks (month.trans own) (weekday.trans on)
    rw [found, same]
  cases ordinal with
  | first | second | third | fourth =>
    refine marked (by split <;> omega) fun other _ day => ?_
    simp only [Ordinal.Marks]
    omega
  | last =>
    have counted := congrArg List.length (YearMonth.map_day_datesOn early)
    rw [List.length_map, List.length_map, List.length_range] at counted
    rw [among, List.getLast?_eq_getElem?, counted]
    by_cases five : first.day + 28 ≤ first.yearMonth.lastDay
    · simp only [if_pos five] at marked ⊢
      refine marked (by omega) fun other month day => ?_
      simp only [Ordinal.Marks, month]
      omega
    · simp only [if_neg five] at marked ⊢
      refine marked (by omega) fun other month day => ?_
      simp only [Ordinal.Marks, month]
      omega

/-! ### Refusals -/

namespace YearMonth

/-- What is reported of a year outside the calendar that a date is asked for in. -/
def yearCause (month : YearMonth) : CalendarError :=
  if Fits32 month.year then .noSuchYear month.year
  else if ¬ Fits64 month.year then .numberTooWide
  else if 0 < month.year then .numberTooLarge
  else .numberTooSmall

/-- The first of ordinal, weekday, month and year that is wrong, and what is reported of it. An
ordinal, a weekday or a month that is wrong is shown, unless it has too many digits. -/
inductive Refuses (month : YearMonth) (ordinal weekday : Value) : Error → Prop
  | ordinal (unknown : ∀ place : Ordinal, ordinal ≠ .text place.name) :
    Refuses month ordinal weekday (.rule (.showing .unsupportedOrdinal ordinal))
  | weekday {place : Ordinal} (named : ordinal = .text place.name)
    (wrong : ∀ number : Int, 0 ≤ number ∧ number ≤ 6 → weekday ≠ .int number) :
    Refuses month ordinal weekday
      (.rule (.showing (.invalidWeekday (.ofField .monthWeekDay)) weekday))
  | month {place : Ordinal} {day : Weekday} (named : ordinal = .text place.name)
    (chosen : weekday = .ofWeekday day) (wrong : ¬ month.IsMonth) :
    Refuses month ordinal weekday (.calendar (.showing .monthOutOfRange month.month))
  | year {place : Ordinal} {day : Weekday} (named : ordinal = .text place.name)
    (chosen : weekday = .ofWeekday day) (proper : month.IsMonth) (wrong : ¬ month.IsInCalendar) :
    Refuses month ordinal weekday (.calendar month.yearCause)

/-- Ordinal, weekday, month and year are all right, or one of them is the first that is wrong. -/
theorem accepted_or_refuses (month : YearMonth) (ordinal weekday : Value) :
    (∃ (place : Ordinal) (day : Weekday), ordinal = .text place.name ∧ weekday = .ofWeekday day ∧
      month.IsMonth ∧ month.IsInCalendar) ∨ ∃ cause, month.Refuses ordinal weekday cause := by
  by_cases named : ∃ place : Ordinal, ordinal = .text place.name
  · obtain ⟨place, named⟩ := named
    by_cases chosen : ∃ day : Weekday, weekday = .ofWeekday day
    · obtain ⟨day, chosen⟩ := chosen
      by_cases proper : month.IsMonth
      · by_cases inside : month.IsInCalendar
        · exact Or.inl ⟨place, day, named, chosen, proper, inside⟩
        · exact Or.inr ⟨_, .year named chosen proper inside⟩
      · exact Or.inr ⟨_, .month named chosen proper⟩
    · exact Or.inr ⟨_, .weekday named (Value.ne_ofWeekday_iff.mp (not_exists.mp chosen))⟩
  · exact Or.inr ⟨_, .ordinal (not_exists.mp named)⟩

end YearMonth

namespace MonthForm

variable {month : YearMonth}

/-- A year that does not fit into a word is reported before anything else of a date. -/
theorem word_year_error (wide : ¬ Fits32 month.year) :
    word month.toForm.year = .error (.calendar month.yearCause) := by
  have refused : Date.fitWord month.year = .error month.yearCause := by
    unfold Date.fitWord YearMonth.yearCause
    rw [if_neg wide, if_neg wide]
    repeat' split
    all_goals rfl
  have whole : month.toForm.year.asWhole = .ok month.year := rfl
  unfold word
  simp only [whole, refused, mapError_ok, bind, Except.bind]
  rfl

variable (proper : month.IsMonth) (outside : ¬ month.IsInCalendar)
include proper outside

/-- No date is made in a year outside the calendar. -/
theorem onDay_toForm_error {day : Int} (first : 1 ≤ day) (last : day ≤ 31) :
    month.toForm.onDay (.int day) = .error (.calendar month.yearCause) := by
  obtain ⟨january, december⟩ := proper
  unfold onDay
  by_cases narrow : Fits32 month.year
  · have wordYear : word month.toForm.year = .ok month.year := word_int narrow
    have wordMonth : word month.toForm.month = .ok month.month := word_int ⟨by omega, by omega⟩
    have wordDay : word (.int day) = .ok day := word_int ⟨by omega, by omega⟩
    have fits {number : Int} (fits32 : Fits32 number) : Date.fitWord number = .ok () :=
      if_pos fits32
    have noYear : month.year < 1 ∨ 9999 < month.year := by
      unfold YearMonth.IsInCalendar at outside
      omega
    have refused : Date.ofCivil month.year month.month day = .error month.yearCause := by
      unfold Date.ofCivil YearMonth.yearCause
      rw [fits narrow, fits ⟨by omega, by omega⟩, fits ⟨by omega, by omega⟩, if_pos noYear,
        if_pos narrow]
      rfl
    simp only [wordYear, wordMonth, wordDay, refused, bind, Except.bind]
    rfl
  · rw [word_year_error narrow]
    rfl

/-- Nothing is found in a year outside the calendar. -/
theorem onWeekday_toForm_error (place : Ordinal) (weekday : Weekday) :
    month.toForm.onWeekday (.text place.name) (.ofWeekday weekday) =
      .error (.calendar month.yearCause) := by
  have long : 28 ≤ month.lastDay := le_monthLength month.year month.month
  have short : month.lastDay ≤ 31 := monthLength_le month.year month.month
  have range : month.toForm.requireMonth = .ok () := requireRange_int proper.1 proper.2 _
  unfold onWeekday
  simp only [Value.asOrdinal_name, Value.asWeekday_ofWeekday, mapError_ok, range,
    length_toForm proper, onDay_toForm_error proper outside Int.one_pos (by omega),
    onDay_toForm_error proper outside (by omega : 1 ≤ month.lastDay) short, bind, Except.bind]
  split <;> rfl

omit proper outside

/-- **The first of ordinal, weekday, month and year that is wrong is reported.** -/
theorem onWeekday_of_refuses {ordinal weekday : Value} {cause : Error}
    (refuses : month.Refuses ordinal weekday cause) :
    month.toForm.onWeekday ordinal weekday = .error cause := by
  unfold onWeekday
  cases refuses with
  | ordinal unknown =>
    cases read : ordinal.asOrdinal with
    | ok place => exact absurd (Value.asOrdinal_eq_ok_iff.mp read) (unknown place)
    | error refusal =>
      rw [Value.asOrdinal_eq_error read]
      rfl
  | weekday named wrong =>
    rw [named, Value.asOrdinal_name]
    cases read : weekday.asWeekday (.ofField .monthWeekDay) with
    | ok day =>
      exact absurd (Value.asWeekday_eq_ok_iff.mp read) (Value.ne_ofWeekday_iff.mpr wrong day)
    | error refusal =>
      rw [Value.asWeekday_eq_error read]
      rfl
  | month named chosen wrong =>
    have refused : month.toForm.requireMonth =
        .error (.calendar (.showing .monthOutOfRange month.month)) :=
      requireRange_int_error (fun within => wrong within) _
    rw [named, chosen, Value.asOrdinal_name, Value.asWeekday_ofWeekday]
    simp only [mapError_ok, refused, bind, Except.bind]
  | year named chosen proper wrong =>
    rw [named, chosen]
    exact onWeekday_toForm_error proper wrong _ _

/-- **A place and a weekday find the date of the month that stands at that place among the month's
dates on that weekday.** The first and the last of these are scanned for in at most six steps that
never leave the month. Otherwise the first of ordinal, weekday, month and year that is wrong decides
what is reported: it is shown, or it has too many digits to be. -/
theorem onWeekday_listed :
    (∀ month : YearMonth, month.IsMonth → month.IsInCalendar →
      ∀ (ordinal : Ordinal) (weekday : Weekday), ∃ date : Date,
        month.toForm.onWeekday (.text ordinal.name) (.ofWeekday weekday) = .ok date ∧
        ordinal.among (month.datesOn weekday) = some date) ∧
    (∀ month : YearMonth, month.IsMonth → month.IsInCalendar → ∀ weekday : Weekday,
      ∃ first last : Date,
        month.firstOn weekday = .ok first ∧ month.ScansTo weekday 1 1 first ∧
        Ordinal.first.among (month.datesOn weekday) = some first ∧
        month.lastOn weekday = .ok last ∧ month.ScansTo weekday (-1) month.lastDay last ∧
        Ordinal.last.among (month.datesOn weekday) = some last) ∧
    ∀ (month : YearMonth) (ordinal weekday : Value) (cause : Error),
      month.toForm.onWeekday ordinal weekday = .error cause ↔
        month.Refuses ordinal weekday cause := by
  have finds {month : YearMonth} (proper : month.IsMonth) (inside : month.IsInCalendar)
      (ordinal : Ordinal) (weekday : Weekday) : ∃ date : Date,
        month.toForm.onWeekday (.text ordinal.name) (.ofWeekday weekday) = .ok date ∧
        ordinal.among (month.datesOn weekday) = some date := by
    obtain ⟨date, found, rfl, rfl, marks⟩ :=
      YearMonth.onWeekday_eq_ok proper inside ordinal weekday
    exact ⟨date, onWeekday_of_marks marks, Ordinal.among_datesOn marks⟩
  refine ⟨fun month => finds, fun month proper inside weekday => ?_, ?_⟩
  · obtain ⟨first, found, own, on, early⟩ := YearMonth.firstOn_eq_ok proper inside weekday
    obtain ⟨last, found', own', on', late⟩ := YearMonth.lastOn_eq_ok proper inside weekday
    have marks : Ordinal.first.Marks first := early
    have marks' : Ordinal.last.Marks last := by rw [← own'] at late; exact late
    have listed := Ordinal.among_datesOn marks
    have listed' := Ordinal.among_datesOn marks'
    rw [own, on] at listed
    rw [own', on'] at listed'
    exact ⟨first, last, found, YearMonth.scansTo_firstOn proper found, listed, found',
      YearMonth.scansTo_lastOn proper found', listed'⟩
  · intro month ordinal weekday cause
    refine ⟨fun failed => ?_, onWeekday_of_refuses⟩
    rcases month.accepted_or_refuses ordinal weekday with
      ⟨place, day, rfl, rfl, proper, inside⟩ | ⟨other, refuses⟩
    · obtain ⟨date, found, _⟩ := finds proper inside place day
      cases found.symm.trans failed
    · cases (onWeekday_of_refuses refuses).symm.trans failed
      exact refuses

/-- The last Saturday of the calendar is six steps before its end, a Friday; there is no weekday
after Saturday. -/
theorem onWeekday_listed_saturdays :
    (⟨9999, 12⟩ : YearMonth).IsMonth ∧ (⟨9999, 12⟩ : YearMonth).IsInCalendar ∧
      (∃ date : Date,
        (YearMonth.toForm ⟨9999, 12⟩).onWeekday (.text "last") (.int 6) = .ok date ∧
        Ordinal.last.among (YearMonth.datesOn ⟨9999, 12⟩ 6) = some date ∧
        YearMonth.ScansTo ⟨9999, 12⟩ 6 (-1) 31 date) ∧
      (YearMonth.toForm ⟨9999, 12⟩).onWeekday (.text "last") (.int 7) =
        .error (.rule (.invalidWeekday (.ofField .monthWeekDay) (.int 7))) := by
  have proper : (⟨9999, 12⟩ : YearMonth).IsMonth := by decide
  have inside : (⟨9999, 12⟩ : YearMonth).IsInCalendar := by decide
  have named : Value.text "last" = .text Ordinal.last.name := rfl
  have wrong : ∀ number : Int, 0 ≤ number ∧ number ≤ 6 → Value.int 7 ≠ .int number := by
    rintro _ ⟨_, le_six⟩ ⟨⟩
    exact absurd le_six (by decide)
  obtain ⟨finds, scans, refuses⟩ := onWeekday_listed
  obtain ⟨date, found, listed⟩ := finds ⟨9999, 12⟩ proper inside .last 6
  obtain ⟨_, last, _, _, _, _, scanned, listed'⟩ := scans ⟨9999, 12⟩ proper inside 6
  cases listed.symm.trans listed'
  have refused := (refuses ⟨9999, 12⟩ (.text "last") (.int 7) _).mpr (.weekday named wrong)
  rw [RuleError.showing_int (by decide)] at refused
  exact ⟨proper, inside, ⟨date, found, listed, scanned⟩, refused⟩

end MonthForm

end Recurrence
