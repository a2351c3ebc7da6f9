/-
**Dates in their written form.**

Numbers are written with zeros on their left up to a width. As long as a number is not wider than
that, it is read back from its digits, and a date is read back from its year, its month and its day.

* `Text.digits?_eq_some`: the number that some digits denote;
* `Text.digits?_padded`, `Text.length_padded`: a number is read back from its digits, of which there
  are as many as the width;
* `Date.isoParts?_iso`: the parts of a date are read back from its written form.
-/
import Recurrence.Calendar.Date

namespace Recurrence

namespace Text

/-! ### Digits -/

theorem foldlM_digit? {chars : List Char} (digits : ∀ char ∈ chars, char.isDigit = true)
    (start : Nat) :
    chars.foldlM (fun number char => (digit? char).map (10 * number + ·)) start =
      some (Nat.ofDigitChars 10 chars start) := by
  induction chars generalizing start with
  | nil => rfl
  | cons char chars ih =>
    obtain ⟨digit, digits⟩ := List.forall_mem_cons.mp digits
    rw [List.foldlM_cons, digit?, if_pos digit, Nat.ofDigitChars_cons]
    exact ih digits _

/-- Digits denote a number, unless there are none. -/
theorem digits?_eq_some {chars : List Char} (nonempty : chars ≠ [])
    (digits : ∀ char ∈ chars, char.isDigit = true) :
    digits? chars = some (Nat.ofDigitChars 10 chars 0) := by
  obtain ⟨char, others, rfl⟩ := List.exists_cons_of_ne_nil nonempty
  exact foldlM_digit? digits 0

theorem toList_padded (width number : Nat) :
    (padded width number).toList =
      List.replicate (width - (Nat.toDigits 10 number).length) '0' ++ Nat.toDigits 10 number := by
  have written : toString (number : Int) = String.ofList (Nat.toDigits 10 number) :=
    Nat.toString_eq_ofList_toDigits
  unfold padded
  simp only [written, String.toList_append, String.toList_ofList, String.length_ofList]

variable {width number : Nat}

/-- **A number is written with as many digits as the width,** if it is not wider. -/
theorem length_padded (positive : 0 < width) (narrow : number < Nat.pow 10 width) :
    (padded width number).toList.length = width := by
  have fits := (Nat.length_toDigits_le_iff (by decide) positive).mpr narrow
  rw [toList_padded, List.length_append, List.length_replicate]
  omega

/-- **A number is read back from its digits.** -/
theorem digits?_padded (width number : Nat) :
    digits? (padded width number).toList = some number := by
  rw [toList_padded, digits?_eq_some]
  · rw [Nat.ofDigitChars_append, Nat.ofDigitChars_replicate_zero, Nat.mul_zero,
      Nat.ofDigitChars_ten_toDigits]
  · exact List.append_ne_nil_of_right_ne_nil _ Nat.toDigits_ne_nil
  · intro char inside
    rcases List.mem_append.mp inside with zero | digit
    · rw [List.eq_of_mem_replicate zero]
      decide
    · exact Nat.isDigit_of_mem_toDigits (by decide) (by decide) digit

end Text

namespace Date

/-! ### Written dates -/

/-- The parts of a written date stand between two dashes, at fixed places. -/
theorem isoParts?_append {year month day : List Char} (four : year.length = 4)
    (two : month.length = 2) (two' : day.length = 2) :
    isoParts? (year ++ '-' :: (month ++ '-' :: day)) = (do
      let year ← Text.digits? year
      let month ← Text.digits? month
      let day ← Text.digits? day
      return (year, month, day)) := by
  match year, four, month, two, day, two' with
  | [_, _, _, _], _, [_, _], _, [_, _], _ => rfl

/-- **The parts of a date are read back from its written form.** -/
theorem isoParts?_iso (date : Date) :
    isoParts? date.iso.toList = some (date.year, date.month, date.day) := by
  have yearBounds := And.intro date.one_le_year date.year_le
  have monthBounds := And.intro date.one_le_month date.month_le
  have dayBounds := And.intro date.one_le_day date.day_le
  obtain ⟨year, yearEq⟩ := Int.eq_ofNat_of_zero_le (by omega : 0 ≤ date.year)
  obtain ⟨month, monthEq⟩ := Int.eq_ofNat_of_zero_le (by omega : 0 ≤ date.month)
  obtain ⟨day, dayEq⟩ := Int.eq_ofNat_of_zero_le (by omega : 0 ≤ date.day)
  have written : date.iso.toList = (Text.padded 4 year).toList ++
      '-' :: ((Text.padded 2 month).toList ++ '-' :: (Text.padded 2 day).toList) := by
    unfold iso
    simp [yearEq, monthEq, dayEq]
  have years : year < Nat.pow 10 4 := by
    show year < 10000
    omega
  have months : month < Nat.pow 10 2 := by
    show month < 100
    omega
  have days : day < Nat.pow 10 2 := by
    show day < 100
    omega
  rw [written, isoParts?_append (Text.length_padded (by decide) years)
    (Text.length_padded (by decide) months) (Text.length_padded (by decide) days),
    Text.digits?_padded, Text.digits?_padded, Text.digits?_padded, yearEq, monthEq, dayEq]
  rfl

end Date

end Recurrence
