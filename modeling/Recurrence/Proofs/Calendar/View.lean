/-
**What a view of a month shows.**

The rows of a view are whole weeks from Sunday to Saturday, without a gap, from the week of the
month's first day to the week of its last. So the month is there once, and beside it only days of
the month before and after. These have other month numbers, so a cell is marked as the month's own
although its year is not looked at. Hence the dates that the view counts are the given ones of the
month, and a date is counted by one view only.

* `weekRows_append`, `exists_dayRun_of_mem_weekRows`: the rows of a run of days;
* `YearMonth.yearMonth_eq_of_near`: near a month, its number tells it from the others;
* `YearMonth.gridDates_eq_ok_iff`: a grid consists of the dates with its days, so there is one for a
  month that can be shown, and only for such a month;
* `MonthView.inMonth_iff`, `MonthView.mem_selection`: the cells of the month, and the dates that are
  counted;
* `MonthView.IsViewOf`: what the view of a month is like;
* `MonthView.views_of_dates`: the views of all months.
-/
import Mathlib.Data.List.Chain
import Mathlib.Data.List.Range
import Recurrence.Proofs.Calendar.Grid
import Recurrence.Proofs.Calendar.Places

namespace Recurrence

/-! ### Rows of days -/

theorem length_dayRun (first last : Int) :
    (dayRun first last).length = (last + 1 - first).toNat := by
  unfold dayRun
  rw [List.length_map, List.length_range]

theorem getElem?_dayRun {first last day : Int} {index : Nat} :
    (dayRun first last)[index]? = some day ↔ day = first + index ∧ day ≤ last := by
  unfold dayRun
  rw [List.getElem?_map, Option.map_eq_some_iff]
  constructor
  · rintro ⟨further, found, rfl⟩
    obtain ⟨inside, rfl⟩ := List.getElem?_eq_some_iff.mp found
    rw [List.length_range] at inside
    rw [List.getElem_range]
    omega
  · rintro ⟨rfl, upTo⟩
    exact ⟨index, List.getElem?_range (by omega), rfl⟩

/-- **The days of a run follow one another.** -/
theorem isChain_dayRun (first last : Int) :
    (dayRun first last).IsChain fun day next => next = day + 1 := by
  unfold dayRun
  rw [List.isChain_map, List.isChain_range]
  intro further _
  omega

/-- Seven items make a row, and the others make the rows below. -/
theorem weekRows_append {α : Type} :
    ∀ {week : List α}, week.length = 7 → ∀ days, weekRows (week ++ days) = week :: weekRows days
  | [_, _, _, _, _, _, _], _, _ => rfl

/-- **The rows of whole weeks are the weeks.** The induction is on how many there are. -/
theorem exists_dayRun_of_mem_weekRows {α : Type} {number : α → Int} :
    ∀ {weeks : Nat} {items : List α} {first : Int},
      items.map number = dayRun first (first + 7 * weeks - 1) → ∀ row ∈ weekRows items,
        ∃ earlier : Nat, earlier < weeks ∧
          row.map number = dayRun (first + 7 * earlier) (first + 7 * earlier + 6)
  | 0, items, first, days, row, member => by
    have length := congrArg List.length days
    rw [List.length_map, length_dayRun] at length
    have none : items = [] := List.eq_nil_of_length_eq_zero (by omega)
    rw [none] at member
    cases member
  | weeks + 1, items, first, days, row, member => by
    have split : dayRun first (first + 7 * (weeks + 1 : Nat) - 1) =
        dayRun first (first + 6) ++ dayRun (first + 7) (first + 7 + 7 * weeks - 1) := by
      rw [← dayRun_append (show first ≤ first + 6 + 1 by omega)
        (show first + 6 ≤ first + 7 * (weeks + 1 : Nat) - 1 by omega)]
      congr 2 <;> omega
    obtain ⟨week, later, rfl, weekDays, laterDays⟩ := List.map_eq_append_iff.mp (days.trans split)
    have length := congrArg List.length weekDays
    rw [List.length_map, length_dayRun] at length
    rw [weekRows_append (by omega)] at member
    rcases List.mem_cons.mp member with rfl | below
    · exact ⟨0, Nat.succ_pos weeks, by simpa using weekDays⟩
    · obtain ⟨earlier, fewer, rowDays⟩ := exists_dayRun_of_mem_weekRows laterDays row below
      refine ⟨earlier + 1, Nat.succ_lt_succ fewer, ?_⟩
      rw [rowDays]
      congr 1 <;> omega

/-! ### The days near a month -/

namespace YearMonth

/-- **Near a month, its number tells it from the others.** -/
theorem yearMonth_eq_of_near {month : YearMonth} (proper : month.IsMonth) {date : Date}
    (after : month.daysBefore - 28 < date.dayNumber)
    (before : date.dayNumber ≤ month.daysBefore + month.lastDay + 28)
    (number : date.month = month.month) : date.yearMonth = month := by
  have proper' := isMonth_yearMonth date
  have year : date.yearMonth.year = date.year := rfl
  have month' : date.yearMonth.month = date.month := rfl
  have placed := date.dayNumber_eq
  have first := date.one_le_day
  have last := date.day_le_lastDay
  rcases Int.lt_trichotomy date.yearMonth.index month.index with earlier | same | later
  · -- The month before lies in between.
    have ended := daysBefore_add_le proper' (isMonth_shift month (-1)) (by
      rw [index_shift]
      unfold index at earlier ⊢
      omega)
    have next := daysBefore_shift_neg_one proper
    have long : 28 ≤ (month.shift (-1)).lastDay := le_monthLength _ _
    omega
  · exact eq_of_index_eq proper' proper same
  · -- The month after lies in between.
    have ended := daysBefore_add_le (isMonth_shift month 1) proper' (by
      rw [index_shift]
      unfold index at later ⊢
      omega)
    have next := daysBefore_shift_one proper
    have long : 28 ≤ (month.shift 1).lastDay := le_monthLength _ _
    omega

/-- **The dates of a grid have its days.** -/
theorem gridDates_eq_ok_iff {month : YearMonth} {grid : List Date} :
    month.gridDates = .ok grid ↔
      month.IsMonth ∧ month.gridDays = grid.map fun date => (date.yearMonth, date.day) := by
  have reads (day : YearMonth × Int) (date : Date) :
      day.1.onDay day.2 = .ok date ↔ day = (date.yearMonth, date.day) := by
    rw [onDay_eq_ok_iff, Prod.ext_iff, eq_comm, @eq_comm _ day.2]
  unfold gridDates requireMonth
  by_cases proper : month.IsMonth
  · rw [if_pos proper]
    exact (mapM_eq_ok_iff reads).trans (and_iff_right proper).symm
  · rw [if_neg proper]
    exact ⟨nofun, fun made => absurd made.1 proper⟩

/-- A month with a grid lies in the calendar with it. -/
theorem isShowable_of_gridDates {month : YearMonth} {grid : List Date}
    (found : month.gridDates = .ok grid) : month.IsShowable := by
  obtain ⟨proper, days⟩ := gridDates_eq_ok_iff.mp found
  have long : 28 ≤ month.lastDay := le_monthLength month.year month.month
  have first : (month, 1) ∈ month.gridDays := by
    unfold gridDays
    refine List.mem_append_left _ (List.mem_append_right _ ?_)
    refine List.mem_map.mpr ⟨0, List.mem_range.mpr ?_, rfl⟩
    unfold lastDay at long
    omega
  rw [days] at first
  obtain ⟨date, _, own⟩ := List.mem_map.mp first
  have inside := isInCalendar_yearMonth date
  rw [show date.yearMonth = month from congrArg Prod.fst own] at inside
  exact (exists_gridDates_iff proper inside).mp ⟨grid, found⟩

end YearMonth

/-! ### What is shown -/

namespace MonthView

/-- The dates of the cells of a view, row by row. -/
def days (view : MonthView) : List Date := view.weeks.flatten.map (·.date)

/-- What the view of a month with dates selected is like. -/
structure IsViewOf (view : MonthView) (dates : List Date) (month : YearMonth) : Prop where
  month_eq : view.month = month
  rows : ∀ week ∈ view.weeks, week.length = 7
  weekdays : ∀ week ∈ view.weeks, ∀ (index : Nat) (cell : Cell), week[index]? = some cell →
    cell.date.weekday.val = index
  consecutive : view.days.IsChain fun day next => next.dayNumber = day.dayNumber + 1
  begins : ∃ sunday, view.days.head? = some sunday ∧ sunday.weekday.val = 0
  ends : ∃ saturday, view.days.getLast? = some saturday ∧ saturday.weekday.val = 6 ∧
    month.gridEnd = .ok saturday
  once : ∀ date : Date, date.yearMonth = month → view.days.count date = 1
  noRowOutside : ∀ week ∈ view.weeks, ∃ cell ∈ week, cell.date.yearMonth = month
  inMonth : ∀ cell ∈ view.weeks.flatten, cell.inMonth = true ↔ cell.date.yearMonth = month
  selected : ∀ cell ∈ view.weeks.flatten, cell.selected = true ↔ cell.date ∈ dates
  increasing : view.selection.Pairwise (· < ·)
  mem_selection : ∀ date, date ∈ view.selection ↔ date ∈ dates ∧ date.yearMonth = month
  count_eq : view.count = view.selection.length ∧
    view.count = view.weeks.flatten.countP fun cell => cell.inMonth && cell.selected

/-- A view consists of rows of cells, which are marked by the number of their month, and its month
has a grid. -/
theorem exists_cells_of_showing {dates : List Date} {month : YearMonth} {view : MonthView}
    (shows : showing dates month = .ok view) :
    month.IsShowable ∧ ∃ cells, view.weeks = weekRows cells ∧
      ∀ cell ∈ cells, cell.inMonth = true ↔ cell.date.month = month.month := by
  obtain ⟨grid, found, made⟩ := bind_eq_ok_iff.mp shows
  cases made
  refine ⟨YearMonth.isShowable_of_gridDates found, _, rfl, fun cell member => ?_⟩
  obtain ⟨date, _, rfl⟩ := List.mem_map.mp member
  exact beq_iff_eq

section Days

variable {view : MonthView} {month : YearMonth}
  (days : view.days.map Date.dayNumber = dayRun month.gridFirst month.gridLast)
include days

theorem mem_days {date : Date} :
    date ∈ view.days ↔ month.gridFirst ≤ date.dayNumber ∧ date.dayNumber ≤ month.gridLast := by
  rw [← mem_dayRun, ← days, List.mem_map_of_injective fun _ _ => Date.ext]

/-- The view has all days of its month. -/
theorem mem_days_of_own {date : Date} (own : date.yearMonth = month) : date ∈ view.days := by
  have first := month.gridFirst_bounds
  have last := month.gridLast_bounds
  have placed := date.dayNumber_eq
  have begun := date.one_le_day
  have ended := date.day_le_lastDay
  rw [own] at placed ended
  rw [mem_days days]
  omega

theorem pairwise_days : view.days.Pairwise (· < ·) := by
  have increasing : (view.days.map Date.dayNumber).Pairwise (· < ·) := by
    rw [days]
    exact ((isChain_dayRun _ _).imp fun _ _ next => by omega).pairwise
  rw [List.pairwise_map] at increasing
  exact increasing

theorem nodup_days : view.days.Nodup :=
  (pairwise_days days).imp fun order same => by
    rw [same] at order
    exact Int.lt_irrefl _ order

/-- **The days of a view follow one another.** -/
theorem isChain_days :
    view.days.IsChain fun day next => next.dayNumber = day.dayNumber + 1 := by
  have chain := isChain_dayRun month.gridFirst month.gridLast
  rw [← days, List.isChain_map] at chain
  exact chain

theorem head?_days :
    ∃ sunday, view.days.head? = some sunday ∧ sunday.dayNumber = month.gridFirst := by
  have begins := head?_dayRun month.gridFirst_le_gridLast
  rw [← days, List.head?_map, Option.map_eq_some_iff] at begins
  exact begins

theorem getLast?_days :
    ∃ saturday, view.days.getLast? = some saturday ∧ saturday.dayNumber = month.gridLast := by
  have ends := getLast?_dayRun month.gridFirst_le_gridLast
  rw [← days, List.getLast?_map, Option.map_eq_some_iff] at ends
  exact ends

/-- **A row is a week from Sunday to Saturday.** -/
theorem exists_sunday_of_mem_weeks {cells : List Cell} (rows : view.weeks = weekRows cells) :
    ∀ week ∈ view.weeks, ∃ sunday : Int, sunday % 7 = 0 ∧ month.gridFirst ≤ sunday ∧
      sunday + 6 ≤ month.gridLast ∧
      week.map (·.date.dayNumber) = dayRun sunday (sunday + 6) := by
  have first := month.gridFirst_bounds
  have last := month.gridLast_bounds
  have order := month.gridFirst_le_gridLast
  obtain ⟨weeks, whole⟩ : ∃ weeks : Nat, month.gridLast = month.gridFirst + 7 * weeks - 1 :=
    ⟨((month.gridLast + 1 - month.gridFirst) / 7).toNat, by omega⟩
  have cellDays : cells.map (·.date.dayNumber) =
      dayRun month.gridFirst (month.gridFirst + 7 * weeks - 1) := by
    rw [← whole, ← days]
    unfold MonthView.days
    rw [rows, flatten_weekRows, List.map_map]
    rfl
  intro week member
  rw [rows] at member
  obtain ⟨earlier, fewer, weekDays⟩ := exists_dayRun_of_mem_weekRows cellDays week member
  exact ⟨month.gridFirst + 7 * earlier, by omega, by omega, by omega, weekDays⟩

end Days

section Weeks

variable {week : List Cell} {sunday : Int}
  (weekDays : week.map (·.date.dayNumber) = dayRun sunday (sunday + 6))
include weekDays

theorem length_week : week.length = 7 := by
  have length := congrArg List.length weekDays
  rw [List.length_map, length_dayRun] at length
  omega

/-- The cells of a row have the weekdays in order. -/
theorem weekday_of_week (onSunday : sunday % 7 = 0) {index : Nat} {cell : Cell}
    (found : week[index]? = some cell) : cell.date.weekday.val = index := by
  have remainder := cell.date.weekday_val
  have placed : (dayRun sunday (sunday + 6))[index]? = some cell.date.dayNumber := by
    rw [← weekDays, List.getElem?_map, found]
    rfl
  have number := getElem?_dayRun.mp placed
  omega

/-- **A row of the grid has a day of the month,** since the grid begins less than a week before the
month and ends less than a week after it. -/
theorem exists_own_of_week {month : YearMonth} (proper : month.IsMonth)
    (first : month.gridFirst ≤ sunday) (last : sunday + 6 ≤ month.gridLast) :
    ∃ cell ∈ week, cell.date.yearMonth = month := by
  have begun : month.daysBefore + 1 ≤ month.gridFirst + 6 := by
    unfold YearMonth.gridFirst
    omega
  have ended : month.gridLast ≤ month.daysBefore + month.lastDay + 6 := month.gridLast_bounds.2.1
  have long : 28 ≤ month.lastDay := le_monthLength month.year month.month
  have shown : max sunday (month.daysBefore + 1) ∈ dayRun sunday (sunday + 6) :=
    mem_dayRun.mpr ⟨Int.le_max_left .., by omega⟩
  have inside : 1 ≤ max sunday (month.daysBefore + 1) - month.daysBefore ∧
      max sunday (month.daysBefore + 1) - month.daysBefore ≤ month.lastDay := by omega
  rw [← weekDays] at shown
  obtain ⟨cell, member, number⟩ := List.mem_map.mp shown
  exact ⟨cell, member, (Date.parts_of_dayNumber proper inside.1 inside.2 (by omega)).1⟩

end Weeks

section Showing

variable {dates : List Date} {month : YearMonth} {view : MonthView}
  (shows : showing dates month = .ok view)
include shows

theorem isShowable_of_showing : month.IsShowable := (exists_cells_of_showing shows).1

/-- The days of a view are those of the grid, and of these the given ones are selected. -/
theorem days_of_showing :
    view.month = month ∧
      view.days.map Date.dayNumber = dayRun month.gridFirst month.gridLast ∧
      ∀ cell ∈ view.weeks.flatten, cell.selected = true ↔ cell.date ∈ dates := by
  obtain ⟨_, shows', own, cellDays, selected⟩ :=
    showing_eq_ok (isShowable_of_showing shows) dates
  cases shows.symm.trans shows'
  refine ⟨own, ?_, selected⟩
  unfold days
  rw [List.map_map]
  exact cellDays

/-- **The marked cells are those of the month,** although only the number of their month is looked
at: the grid is too short to reach the same month of another year. -/
theorem inMonth_iff {cell : Cell} (member : cell ∈ view.weeks.flatten) :
    cell.inMonth = true ↔ cell.date.yearMonth = month := by
  obtain ⟨showable, cells, rows, marked⟩ := exists_cells_of_showing shows
  have inside := (mem_days (days_of_showing shows).2.1).mp (List.mem_map_of_mem member)
  have first := month.gridFirst_bounds
  have last := month.gridLast_bounds
  rw [rows, flatten_weekRows] at member
  rw [marked cell member]
  refine ⟨fun number => ?_, fun own => congrArg YearMonth.month own⟩
  exact YearMonth.yearMonth_eq_of_near showable.1 (by omega) (by omega) number

/-- **The dates that are counted are the given ones of the month.** -/
theorem mem_selection {date : Date} :
    date ∈ view.selection ↔ date ∈ dates ∧ date.yearMonth = month := by
  obtain ⟨_, days, selected⟩ := days_of_showing shows
  unfold selection
  simp only [List.mem_map, List.mem_filter, Bool.and_eq_true]
  constructor
  · rintro ⟨cell, ⟨member, isOwn, isSelected⟩, rfl⟩
    exact ⟨(selected cell member).mp isSelected, (inMonth_iff shows member).mp isOwn⟩
  · rintro ⟨given, own⟩
    obtain ⟨cell, member, rfl⟩ := List.mem_map.mp (mem_days_of_own days own)
    have isOwn := (inMonth_iff shows member).mpr own
    exact ⟨cell, ⟨member, isOwn, (selected cell member).mpr given⟩, rfl⟩

/-- **The view of a month is as it should be.** -/
theorem isViewOf_of_showing : view.IsViewOf dates month := by
  obtain ⟨showable, cells, rows, _⟩ := exists_cells_of_showing shows
  obtain ⟨own, days, selected⟩ := days_of_showing shows
  have weeks := exists_sunday_of_mem_weeks days rows
  obtain ⟨sunday, head, first⟩ := head?_days days
  obtain ⟨saturday, final, last⟩ := getLast?_days days
  obtain ⟨gridEnd, ended, number⟩ := YearMonth.gridEnd_eq_ok showable
  obtain rfl : gridEnd = saturday := Date.ext (number.trans last.symm)
  refine {
    month_eq := own
    rows := fun week member => ?_
    weekdays := fun week member index cell found => ?_
    consecutive := isChain_days days
    begins := ⟨sunday, head, ?_⟩
    ends := ⟨gridEnd, final, ?_, ended⟩
    once := fun date own =>
      List.count_eq_one_of_mem (nodup_days days) (mem_days_of_own days own)
    noRowOutside := fun week member => ?_
    inMonth := fun cell member => inMonth_iff shows member
    selected := selected
    increasing := (pairwise_days days).sublist (List.filter_sublist.map _)
    mem_selection := fun date => mem_selection shows
    count_eq := ⟨rfl, ?_⟩ }
  · obtain ⟨_, _, _, _, weekDays⟩ := weeks week member
    exact length_week weekDays
  · obtain ⟨_, onSunday, _, _, weekDays⟩ := weeks week member
    exact weekday_of_week weekDays onSunday found
  · have remainder := sunday.weekday_val
    have onSunday := month.gridFirst_bounds.2.2
    omega
  · have remainder := gridEnd.weekday_val
    have onSaturday := month.gridLast_bounds.2.2
    omega
  · obtain ⟨_, _, begun, upTo, weekDays⟩ := weeks week member
    exact exists_own_of_week weekDays showable.1 begun upTo
  · unfold MonthView.count selection
    rw [List.length_map, List.countP_eq_length_filter]

end Showing

/-! ### All months -/

/-- **A date is counted in the view of its own month only,** if that month has one. -/
theorem mem_selection_showing_iff {dates : List Date} {date : Date} (given : date ∈ dates)
    {month : YearMonth} :
    (∃ view, showing dates month = .ok view ∧ date ∈ view.selection) ↔
      date.yearMonth = month ∧ month.IsShowable := by
  constructor
  · rintro ⟨view, shows, counted⟩
    exact ⟨((mem_selection shows).mp counted).2, isShowable_of_showing shows⟩
  · rintro ⟨own, showable⟩
    obtain ⟨view, shows, _⟩ := showing_eq_ok showable dates
    exact ⟨view, shows, (mem_selection shows).mpr ⟨given, own⟩⟩

/-- **Every month but the first and the last of the calendar has a view that shows it with the given
dates. Every date of these months is counted in the view of exactly one month,** and the dates of
the other two in none. -/
theorem views_of_dates (dates : List Date) :
    (∀ month : YearMonth, month.IsShowable →
      ∃ view, showing dates month = .ok view ∧ view.IsViewOf dates month) ∧
    ∀ date ∈ dates,
      if date.yearMonth.IsShowable then
        ∃! month, ∃ view, showing dates month = .ok view ∧ date ∈ view.selection
      else ∀ month view, showing dates month = .ok view → date ∉ view.selection := by
  constructor
  · intro month showable
    obtain ⟨view, shows, _⟩ := showing_eq_ok showable dates
    exact ⟨view, shows, isViewOf_of_showing shows⟩
  · intro date given
    split
    · rename_i showable
      refine ⟨date.yearMonth, (mem_selection_showing_iff given).mpr ⟨rfl, showable⟩, ?_⟩
      intro month counted
      exact ((mem_selection_showing_iff given).mp counted).1.symm
    · rename_i notShowable
      intro month view shows counted
      obtain ⟨own, showable⟩ := (mem_selection_showing_iff given).mp ⟨view, shows, counted⟩
      exact notShowable (own ▸ showable)

/-- The 3 April 2026, and the 30 March before it twice. -/
def nearApril : List Date :=
  [⟨739709, by decide, by decide⟩, ⟨739705, by decide, by decide⟩, ⟨739705, by decide, by decide⟩]

theorem views_of_nearApril :
    (⟨2026, 3⟩ : YearMonth).IsShowable ∧
      (∃ view, showing nearApril ⟨2026, 3⟩ = .ok view ∧ view.IsViewOf nearApril ⟨2026, 3⟩) ∧
      ∀ date ∈ nearApril, ∃! month, ∃ view, showing nearApril month = .ok view ∧
        date ∈ view.selection := by
  have showable : (⟨2026, 3⟩ : YearMonth).IsShowable := by decide
  have allShowable : ∀ date ∈ nearApril, date.yearMonth.IsShowable := by decide
  obtain ⟨views, counted⟩ := views_of_dates nearApril
  refine ⟨showable, views _ showable, fun date given => ?_⟩
  have once := counted date given
  rw [if_pos (allShowable date given)] at once
  exact once

/-- The 3 April is shown in the last row of March, but not counted there. -/
example : (showing nearApril ⟨2026, 3⟩).map (·.count) = .ok 1 := by decide

end MonthView

end Recurrence
