/-
**The grid of a month.**

The days of a month's grid lie one after the other, from the Sunday on or before the first of the
month to the Saturday on or after its last. They are dates for every month of the calendar but the
first and the last, whose grids reach beyond it.

* `YearMonth.daysBefore_shift_one`: a month begins where the month before ends;
* `YearMonth.dayNumbers_gridDays`: the days of a grid are the days from its first to its last;
* `YearMonth.gridDates_eq_ok`, `YearMonth.gridEnd_eq_ok`: a grid that reaches nowhere beyond the
  calendar consists of dates;
* `YearMonth.exists_gridDates_iff`: the other two grids do not;
* `MonthView.showing_eq_ok`: the cells of a view are the dates of the grid, and of these the given
  ones are selected.
-/
import Mathlib.Data.Set.List
import Recurrence.MonthView
import Recurrence.Proofs.Calendar.Civil
import Recurrence.Proofs.Rule.Draft

namespace Recurrence

/-! ### Days in a row -/

/-- The numbers of the days from one to another. -/
def dayRun (first last : Int) : List Int :=
  (List.range (last + 1 - first).toNat).map fun further : Nat => first + further

theorem mem_dayRun {first last day : Int} :
    day ∈ dayRun first last ↔ first ≤ day ∧ day ≤ last := by
  unfold dayRun
  rw [List.mem_map]
  constructor
  · rintro ⟨further, member, rfl⟩
    have near := List.mem_range.mp member
    omega
  · intro ⟨lower, upper⟩
    exact ⟨(day - first).toNat, List.mem_range.mpr (by omega), by omega⟩

/-- **Two runs of days are one when the second begins where the first ends.** -/
theorem dayRun_append {first middle last : Int} (lower : first ≤ middle + 1)
    (upper : middle ≤ last) :
    dayRun first middle ++ dayRun (middle + 1) last = dayRun first last := by
  have length : (last + 1 - first).toNat =
      (middle + 1 - first).toNat + (last + 1 - (middle + 1)).toNat := by omega
  unfold dayRun
  rw [length, List.range_add, List.map_append, List.map_map]
  congr 1
  refine List.map_congr_left fun further _ => ?_
  simp only [Function.comp_apply]
  omega

theorem head?_dayRun {first last : Int} (order : first ≤ last) :
    (dayRun first last).head? = some first := by
  have length : (last + 1 - first).toNat = (last - first).toNat + 1 := by omega
  unfold dayRun
  rw [length, List.range_succ_eq_map, List.map_cons, List.head?_cons]
  congr 1
  omega

theorem getLast?_dayRun {first last : Int} (order : first ≤ last) :
    (dayRun first last).getLast? = some last := by
  have length : (last + 1 - first).toNat = (last - first).toNat + 1 := by omega
  unfold dayRun
  rw [length, List.range_succ, List.map_append, List.map_singleton, List.getLast?_concat]
  congr 1
  omega

namespace YearMonth

/-! ### Months in a row -/

/-- **A month begins where the month before ends.** -/
theorem daysBefore_shift_one {month : YearMonth} (proper : month.IsMonth) :
    (month.shift 1).daysBefore = month.daysBefore + month.lastDay := by
  obtain ⟨lower, upper⟩ := proper
  by_cases december : month.month = 12
  · have next : month.shift 1 = ⟨month.year + 1, 1⟩ := by
      ext <;> simp only [shift, ofIndex, index] <;> omega
    unfold daysBefore lastDay
    rw [next, december, daysBeforeYear_succ]
    by_cases leap : IsLeapYear month.year <;> simp [daysBeforeMonth, monthLength, leap] <;> omega
  · have next : month.shift 1 = ⟨month.year, month.month + 1⟩ := by
      ext <;> simp only [shift, ofIndex, index] <;> omega
    unfold daysBefore lastDay
    rw [next]
    simp only []
    rw [daysBeforeMonth_succ month.year month.month lower (by omega), Int.add_assoc]

/-- The month before ends where a month begins. -/
theorem daysBefore_shift_neg_one {month : YearMonth} (proper : month.IsMonth) :
    month.daysBefore = (month.shift (-1)).daysBefore + (month.shift (-1)).lastDay := by
  rw [← daysBefore_shift_one (isMonth_shift month (-1)), shift_shift]
  exact congrArg daysBefore (shift_zero proper).symm

/-! ### The days of a grid -/

/-- The number of the Sunday on or before the first of a month. -/
def gridFirst (month : YearMonth) : Int := month.daysBefore + 1 - (month.daysBefore + 1) % 7

/-- The number of the Saturday on or after the last of a month. -/
def gridLast (month : YearMonth) : Int :=
  month.daysBefore + month.lastDay + -(month.daysBefore + 1 + month.lastDay) % 7

theorem gridFirst_bounds (month : YearMonth) :
    month.daysBefore - 5 ≤ month.gridFirst ∧ month.gridFirst ≤ month.daysBefore + 1 ∧
      month.gridFirst % 7 = 0 := by
  unfold gridFirst
  omega

theorem gridLast_bounds (month : YearMonth) :
    month.daysBefore + month.lastDay ≤ month.gridLast ∧
      month.gridLast ≤ month.daysBefore + month.lastDay + 6 ∧ month.gridLast % 7 = 6 := by
  unfold gridLast
  omega

theorem gridFirst_le_gridLast (month : YearMonth) : month.gridFirst ≤ month.gridLast := by
  have first := month.gridFirst_bounds
  have last := month.gridLast_bounds
  have long : 28 ≤ month.lastDay := le_monthLength month.year month.month
  omega

/-- The number of a day that is given by month and day of the month. -/
def dayNumber (day : YearMonth × Int) : Int := day.1.daysBefore + day.2

theorem map_dayNumber_daysBetween (month : YearMonth) (first last : Int) :
    (month.daysBetween first last).map dayNumber =
      dayRun (month.daysBefore + first) (month.daysBefore + last) := by
  have length : month.daysBefore + last + 1 - (month.daysBefore + first) = last + 1 - first := by
    omega
  unfold daysBetween dayRun
  rw [length, List.map_map]
  refine List.map_congr_left fun further _ => ?_
  simp only [Function.comp_apply, dayNumber]
  omega

/-- **The days of a grid are the days from its first to its last.** -/
theorem dayNumbers_gridDays {month : YearMonth} (proper : month.IsMonth) :
    month.gridDays.map dayNumber = dayRun month.gridFirst month.gridLast := by
  have before := daysBefore_shift_neg_one proper
  have after := daysBefore_shift_one proper
  have long : 28 ≤ month.lastDay := le_monthLength month.year month.month
  have weekday : dayNumberOf month.year month.month 1 = month.daysBefore + 1 := rfl
  have begun : (month.shift (-1)).daysBefore +
      ((month.shift (-1)).lastDay - (month.daysBefore + 1) % 7 + 1) = month.gridFirst := by
    unfold gridFirst
    omega
  have ended : (month.shift 1).daysBefore +
      -((month.daysBefore + 1) % 7 + month.lastDay) % 7 = month.gridLast := by
    unfold gridLast
    omega
  have first := month.gridFirst_bounds
  have last := month.gridLast_bounds
  unfold gridDays
  simp only [List.map_append, map_dayNumber_daysBetween, weekday]
  show dayRun ((month.shift (-1)).daysBefore + ((month.shift (-1)).lastDay - _ + 1))
      ((month.shift (-1)).daysBefore + (month.shift (-1)).lastDay) ++
    dayRun _ (month.daysBefore + month.lastDay) ++
    dayRun _ ((month.shift 1).daysBefore + -(_ + month.lastDay) % 7) = _
  rw [begun, ended, ← before, after, dayRun_append first.2.1 (by omega),
    dayRun_append (by omega) last.1]

/-! ### The dates of a grid -/

/-- The grid of the month lies in the calendar. -/
def IsShowable (month : YearMonth) : Prop :=
  month.IsMonth ∧ month.IsInCalendar ∧ month ≠ ⟨1, 1⟩ ∧ month ≠ ⟨9999, 12⟩

instance (month : YearMonth) : Decidable month.IsShowable :=
  inferInstanceAs (Decidable (_ ∧ _ ∧ _ ∧ _))

/-- A month next to one whose grid lies in the calendar does so itself. -/
theorem IsShowable.isInCalendar_shift {month : YearMonth} (showable : month.IsShowable)
    {months : Int} (next : -1 ≤ months ∧ months ≤ 1) : (month.shift months).IsInCalendar := by
  obtain ⟨⟨january, december⟩, ⟨first, last⟩, notFirst, notLast⟩ := showable
  have later : ¬ (month.year = 1 ∧ month.month = 1) := fun both =>
    notFirst (YearMonth.ext both.1 both.2)
  have earlier : ¬ (month.year = 9999 ∧ month.month = 12) := fun both =>
    notLast (YearMonth.ext both.1 both.2)
  simp only [IsInCalendar, shift, ofIndex, index]
  omega

/-- The days of a month of the calendar are dates. -/
theorem exists_date_of_mem_daysBetween {month : YearMonth} (proper : month.IsMonth)
    (inside : month.IsInCalendar) {first last : Int} (lower : 1 ≤ first)
    (upper : last ≤ month.lastDay) {day : YearMonth × Int}
    (member : day ∈ month.daysBetween first last) :
    ∃ date : Date, (date.yearMonth, date.day) = day := by
  obtain ⟨further, near, rfl⟩ := List.mem_map.mp member
  have near := List.mem_range.mp near
  obtain ⟨date, _, months, days⟩ := Date.ofDayNumber_eq_ok (first + further) proper inside.1
    inside.2 (by omega) (by omega)
  exact ⟨date, Prod.ext months days⟩

/-- **The days of a grid that lies in the calendar are dates.** -/
theorem exists_date_of_mem_gridDays {month : YearMonth} (showable : month.IsShowable) :
    ∀ day ∈ month.gridDays, ∃ date : Date, (date.yearMonth, date.day) = day := by
  have long : 28 ≤ month.lastDay := le_monthLength month.year month.month
  have longBefore : 28 ≤ monthLength (month.shift (-1)).year (month.shift (-1)).month :=
    le_monthLength _ _
  have longAfter : 28 ≤ (month.shift 1).lastDay := le_monthLength _ _
  have inside {months : Int} (next : -1 ≤ months ∧ months ≤ 1) :=
    showable.isInCalendar_shift next
  intro day member
  unfold gridDays at member
  simp only [List.mem_append] at member
  rcases member with (before | own) | after
  · exact exists_date_of_mem_daysBetween (isMonth_shift _ _) (inside (by omega)) (by omega)
      (Int.le_refl _) before
  · exact exists_date_of_mem_daysBetween showable.1 showable.2.1 (Int.le_refl 1)
      (Int.le_refl _) own
  · exact exists_date_of_mem_daysBetween (isMonth_shift _ _) (inside (by omega)) (Int.le_refl 1)
      (by omega) after

/-- **A grid that lies in the calendar consists of dates,** one after the other. -/
theorem gridDates_eq_ok {month : YearMonth} (showable : month.IsShowable) :
    ∃ grid, month.gridDates = .ok grid ∧
      grid.map Date.dayNumber = dayRun month.gridFirst month.gridLast := by
  obtain ⟨grid, days⟩ : ∃ grid : List Date,
      grid.map (fun date => (date.yearMonth, date.day)) = month.gridDays := by
    have written : month.gridDays ∈
        Set.range (List.map fun date : Date => (date.yearMonth, date.day)) := by
      rw [Set.range_list_map]
      exact exists_date_of_mem_gridDays showable
    exact written
  refine ⟨grid, ?_, ?_⟩
  · unfold gridDates requireMonth
    rw [if_pos showable.1, ← days]
    exact mapM_map_ok fun date _ => date.ofCivil_parts
  · rw [← dayNumbers_gridDays showable.1, ← days, List.map_map]
    exact List.map_congr_left fun date _ => date.dayNumber_eq

/-- **The grid ends on the Saturday on or after the last of the month.** -/
theorem gridEnd_eq_ok {month : YearMonth} (showable : month.IsShowable) :
    ∃ last, month.gridEnd = .ok last ∧ last.dayNumber = month.gridLast := by
  obtain ⟨grid, dates, days⟩ := gridDates_eq_ok showable
  have final : (grid.map Date.dayNumber).getLast? = some month.gridLast := by
    rw [days]
    exact getLast?_dayRun month.gridFirst_le_gridLast
  rw [List.getLast?_map, Option.map_eq_some_iff] at final
  obtain ⟨saturday, shown, number⟩ := final
  refine ⟨saturday, ?_, number⟩
  unfold gridEnd
  rw [dates]
  simp only [bind, Except.bind, shown]
  rfl

/-- **Of the months of the calendar only the first and the last have grids that reach beyond
it.** -/
theorem exists_gridDates_iff {month : YearMonth} (proper : month.IsMonth)
    (inside : month.IsInCalendar) :
    (∃ grid, month.gridDates = .ok grid) ↔ month.IsShowable := by
  refine ⟨fun ⟨grid, dates⟩ => ⟨proper, inside, ?_, ?_⟩, fun showable => ?_⟩
  · rintro rfl
    cases dates
  · rintro rfl
    cases dates
  · obtain ⟨grid, dates, _⟩ := gridDates_eq_ok showable
    exact ⟨grid, dates⟩

end YearMonth

/-! ### Views -/

/-- Rows of seven make up the list that they are cut from. -/
theorem flatten_weekRows {α : Type} (items : List α) : (weekRows items).flatten = items := by
  fun_induction weekRows items with
  | case1 => simp_all
  | case2 => rfl
  | case3 => simp

namespace MonthView

/-- Cutting dates to a run of days loses none of that run. -/
theorem mem_cut_iff {grid dates : List Date} {first last : Int} (order : first ≤ last)
    (days : grid.map Date.dayNumber = dayRun first last) {date : Date} (inside : date ∈ grid) :
    (date ∈ match grid.head?, grid.getLast? with
      | some first, some last => dates.filter fun date => first ≤ date ∧ date ≤ last
      | _, _ => []) ↔ date ∈ dates := by
  have begins : (grid.map Date.dayNumber).head? = some first := by
    rw [days]
    exact head?_dayRun order
  have ends : (grid.map Date.dayNumber).getLast? = some last := by
    rw [days]
    exact getLast?_dayRun order
  rw [List.head?_map, Option.map_eq_some_iff] at begins
  rw [List.getLast?_map, Option.map_eq_some_iff] at ends
  obtain ⟨sunday, head, rfl⟩ := begins
  obtain ⟨saturday, final, rfl⟩ := ends
  have between : date.dayNumber ∈ dayRun sunday.dayNumber saturday.dayNumber := by
    rw [← days]
    exact List.mem_map_of_mem inside
  have both : sunday ≤ date ∧ date ≤ saturday := mem_dayRun.mp between
  rw [head, final]
  simp only [List.mem_filter, decide_eq_true_eq, and_iff_left both]

/-- **The cells of a view are the dates of the grid, and of these the given ones are selected.** -/
theorem showing_eq_ok {month : YearMonth} (showable : month.IsShowable) (dates : List Date) :
    ∃ view, showing dates month = .ok view ∧ view.month = month ∧
      view.weeks.flatten.map (·.date.dayNumber) = dayRun month.gridFirst month.gridLast ∧
      ∀ cell ∈ view.weeks.flatten, cell.selected = true ↔ cell.date ∈ dates := by
  obtain ⟨grid, found, days⟩ := YearMonth.gridDates_eq_ok showable
  let shown := match grid.head?, grid.getLast? with
    | some first, some last => dates.filter fun date => first ≤ date ∧ date ≤ last
    | _, _ => []
  let cells := grid.map fun date =>
    { date, inMonth := date.month == month.month, selected := shown.contains date : Cell }
  refine ⟨⟨month, weekRows cells⟩, ?_, rfl, ?_, fun cell member => ?_⟩
  · unfold showing
    rw [found]
    rfl
  · rw [flatten_weekRows, List.map_map, ← days]
    rfl
  · rw [flatten_weekRows] at member
    obtain ⟨date, inside, rfl⟩ := List.mem_map.mp member
    exact List.contains_iff_mem.trans (mem_cut_iff month.gridFirst_le_gridLast days inside)

end MonthView

end Recurrence
