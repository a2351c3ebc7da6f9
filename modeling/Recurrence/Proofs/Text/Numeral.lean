/-
**Written integers are read back.**

An integer is written in ASCII digits, with a minus sign in front if it is negative. From that form
it is read back as long as it has no more digits than are read, and otherwise its digits are
counted in the report. What is read, in whatever form, has no more digits than are written.

* `Text.integer_digits`: what is read from ASCII digits, with or without a minus sign;
* `Text.integer_toString`: an integer is read back from its decimal form, unless it is too long;
* `Text.isWritable_of_integer`: an integer that has been read can be written.
-/
import Mathlib.Data.List.Induction
import Mathlib.Data.List.TakeWhile
import Recurrence.Text.Numeral

namespace Recurrence

namespace Text

/-! ### ASCII digits -/

section Digit

variable {char : Char}

theorem digitAt?_of_isDigit (digit : char.isDigit = true) :
    digitAt? (.char char) = some (char.toNat - '0'.toNat) := by
  obtain ⟨above, below⟩ := Char.isDigit_iff_toNat.mp digit
  have inRow : 0x30 ≤ char.toNat ∧ char.toNat < 0x30 + 10 := ⟨above, Nat.lt_succ_of_le below⟩
  simp [digitAt?, CodePoint.char?, decimalDigit?, digitZeros, inRow]

theorem isInRun_of_isDigit (digit : char.isDigit = true) : isInRun (.char char) = true := by
  simp [isInRun, digitAt?_of_isDigit digit]

theorem ne_of_isDigit (digit : char.isDigit = true) {other : Char} (no : other.isDigit = false) :
    char ≠ other := by
  rintro rfl
  rw [digit] at no
  cases no

theorem isBlank_of_isDigit (digit : char.isDigit = true) : isBlank char = false := by
  obtain ⟨above, below⟩ := Char.isDigit_iff_toNat.mp digit
  have above' : 0x30 ≤ char.toNat := above
  have below' : char.toNat ≤ 0x39 := below
  simp only [isBlank, isWhiteSpace, Bool.or_eq_false_iff, Bool.and_eq_false_iff,
    decide_eq_false_iff_not, beq_eq_false_iff_ne]
  omega

theorem isWhiteSpace_of_isDigit (digit : char.isDigit = true) : isWhiteSpace char = false := by
  have dark := isBlank_of_isDigit digit
  unfold isBlank at dark
  exact (Bool.or_eq_false_iff.mp dark).1

end Digit

/-! ### Runs of ASCII digits -/

section Run

variable {chars : List Char}

theorem takeWhile_isInRun (digits : ∀ char ∈ chars, char.isDigit = true) :
    (chars.map CodePoint.char).takeWhile isInRun = chars.map .char := by
  refine List.takeWhile_eq_self_iff.mpr fun codePoint inside => ?_
  obtain ⟨char, member, rfl⟩ := List.mem_map.mp inside
  exact isInRun_of_isDigit (digits char member)

theorem filterMap_digitAt? (digits : ∀ char ∈ chars, char.isDigit = true) :
    (chars.map CodePoint.char).filterMap digitAt? =
      chars.map fun char => char.toNat - '0'.toNat := by
  induction chars with
  | nil => rfl
  | cons char chars ih =>
    obtain ⟨digit, digits⟩ := List.forall_mem_cons.mp digits
    rw [List.map_cons, List.filterMap_cons_some (digitAt?_of_isDigit digit), ih digits,
      List.map_cons]

theorem isWellFormed_digits (digits : ∀ char ∈ chars, char.isDigit = true) :
    isWellFormed true (chars.map .char) = true := by
  induction chars with
  | nil => rfl
  | cons char chars ih =>
    obtain ⟨digit, digits⟩ := List.forall_mem_cons.mp digits
    have other : char ≠ '_' := ne_of_isDigit digit rfl
    rw [List.map_cons, isWellFormed]
    · exact ih digits
    · intro same
      exact other (CodePoint.char.inj same)

theorem natural_digits (chars : List Char) :
    natural (chars.map fun char => char.toNat - '0'.toNat) = Nat.ofDigitChars 10 chars 0 :=
  List.foldl_map

/-- A sign in front of digits is taken off. -/
theorem takeSign_digits (negative : Bool) {first : Char} {others : List Char}
    (digit : first.isDigit = true) :
    takeSign ((ofChars ((if negative then ['-'] else []) ++ first :: others)).codePoints.dropWhile
      (CodePoint.isIn isWhiteSpace)) = (negative, (first :: others).map .char) := by
  cases negative with
  | true => rfl
  | false =>
    have white : CodePoint.isIn isWhiteSpace (.char first) = false := isWhiteSpace_of_isDigit digit
    have minus : first ≠ '-' := ne_of_isDigit digit rfl
    have plus : first ≠ '+' := ne_of_isDigit digit rfl
    simp [ofChars, white, takeSign, minus, plus]

/-- **ASCII digits are read as the number that they denote,** with either sign, unless there are too
many of them. -/
theorem integer_digits (negative : Bool) (nonempty : chars ≠ [])
    (digits : ∀ char ∈ chars, char.isDigit = true) :
    integer (ofChars ((if negative then ['-'] else []) ++ chars)) =
      if maxDigits < chars.length then .error (.tooLong chars.length)
      else .ok (if negative then -(Nat.ofDigitChars 10 chars 0 : Int)
        else Nat.ofDigitChars 10 chars 0) := by
  obtain ⟨first, others, rfl⟩ := List.exists_cons_of_ne_nil nonempty
  obtain ⟨digit, _⟩ := List.forall_mem_cons.mp digits
  have formed : isWellFormed false ((first :: others).map .char) = true := by
    have other : first ≠ '_' := ne_of_isDigit digit rfl
    rw [List.map_cons, isWellFormed]
    · exact isWellFormed_digits (List.forall_mem_cons.mp digits).2
    · intro same
      exact other (CodePoint.char.inj same)
  have nothingLeft : ((first :: others).map CodePoint.char).drop (first :: others).length = [] := by
    rw [← List.map_drop, List.drop_length, List.map_nil]
  unfold integer
  simp only [takeSign_digits negative digit, takeWhile_isInRun digits, filterMap_digitAt? digits,
    formed, List.length_map, natural_digits, nothingLeft, List.all_nil, Bool.not_true,
    Bool.false_eq_true, if_false]
  split <;> rfl

end Run

/-! ### Integers -/

/-- The decimal form of an integer is a minus sign if it is negative, and digits. -/
theorem ofString_toString (number : Int) :
    ofString (toString number) =
      ofChars ((if decide (number < 0) then ['-'] else []) ++ Nat.toDigits 10 number.natAbs) := by
  cases number with
  | ofNat magnitude =>
    have written : toString (Int.ofNat magnitude) = String.ofList (Nat.toDigits 10 magnitude) :=
      Nat.toString_eq_ofList_toDigits
    rw [written, ofString, String.toList_ofList]
    rfl
  | negSucc magnitude =>
    have written : toString (Int.negSucc magnitude) =
        "-" ++ String.ofList (Nat.toDigits 10 (magnitude + 1)) :=
      congrArg ("-" ++ ·) Nat.toString_eq_ofList_toDigits
    have negative : decide (Int.negSucc magnitude < 0) = true :=
      decide_eq_true (Int.negSucc_lt_zero magnitude)
    rw [written, ofString, String.toList_append, String.toList_ofList, String.toList_ofList,
      if_pos negative]
    rfl

theorem isDigit_of_mem_toDigits (number : Nat) :
    ∀ char ∈ Nat.toDigits 10 number, char.isDigit = true :=
  fun _ inside => Nat.isDigit_of_mem_toDigits (by decide) (by decide) inside

/-- A number can be written if it has no more digits than are written. -/
theorem isWritable_iff_length (number : Int) :
    IsWritable number ↔ (Nat.toDigits 10 number.natAbs).length ≤ maxDigits := by
  have positive : 0 < maxDigits := by decide
  unfold IsWritable
  generalize maxDigits = limit at positive ⊢
  exact (Nat.length_toDigits_le_iff (by decide) positive).symm

/-- **An integer is read back from its decimal form,** unless it has too many digits. -/
theorem integer_toString (number : Int) :
    integer (ofString (toString number)) =
      if IsWritable number then .ok number
      else .error (.tooLong (Nat.toDigits 10 number.natAbs).length) := by
  have value : (if decide (number < 0) then
      -((Nat.ofDigitChars 10 (Nat.toDigits 10 number.natAbs) 0 : Nat) : Int)
      else (Nat.ofDigitChars 10 (Nat.toDigits 10 number.natAbs) 0 : Nat)) = number := by
    rw [Nat.ofDigitChars_ten_toDigits]
    simp only [decide_eq_true_eq]
    split <;> omega
  rw [ofString_toString, integer_digits _ Nat.toDigits_ne_nil (isDigit_of_mem_toDigits _), value]
  by_cases writable : IsWritable number
  · rw [if_pos writable, if_neg (Nat.not_lt.mpr ((isWritable_iff_length number).mp writable))]
  · rw [if_neg writable,
      if_pos (Nat.lt_of_not_le fun few => writable ((isWritable_iff_length number).mpr few))]

/-! ### What has been read -/

theorem decimalDigit?_lt {char : Char} {digit : Nat} (found : decimalDigit? char = some digit) :
    digit < 10 := by
  obtain ⟨first, row, rfl⟩ := Option.map_eq_some_iff.mp found
  have inRow : first ≤ char.toNat ∧ char.toNat < first + 10 := by
    simpa using List.find?_some row
  omega

theorem natural_concat (digits : List Nat) (digit : Nat) :
    natural (digits ++ [digit]) = 10 * natural digits + digit := by
  simp only [natural, List.foldl_append, List.foldl_cons, List.foldl_nil]

/-- Digits denote a number below the power of ten with as many zeros. -/
theorem natural_lt {digits : List Nat} (small : ∀ digit ∈ digits, digit < 10) :
    natural digits < Nat.pow 10 digits.length := by
  induction digits using List.reverseRecOn with
  | nil => exact Nat.zero_lt_one
  | append_singleton digits digit ih =>
    have front := ih fun other inside => small other (List.mem_append_left [digit] inside)
    have last := small digit (List.mem_append_right digits (List.mem_singleton_self digit))
    have longer : Nat.pow 10 (digits.length + 1) = 10 * Nat.pow 10 digits.length :=
      Nat.pow_succ'
    rw [natural_concat, List.length_append, List.length_singleton, longer]
    omega

/-- What is read is denoted, up to its sign, by digits that are not too many. -/
theorem exists_digits_of_integer {text : Text} {number : Int}
    (read : integer text = .ok number) :
    ∃ digits : List Nat, (∀ digit ∈ digits, digit < 10) ∧ digits.length ≤ maxDigits ∧
      number.natAbs = natural digits := by
  unfold integer at read
  simp only [] at read
  split at read
  · cases read
  · split at read
    · cases read
    · split at read
      · cases read
      · rename_i short _
        refine ⟨_, fun digit inside => ?_, Nat.not_lt.mp short, ?_⟩
        · obtain ⟨codePoint, _, found⟩ := List.mem_filterMap.mp inside
          obtain ⟨char, _, found⟩ := Option.bind_eq_some_iff.mp found
          exact decimalDigit?_lt found
        · cases read
          split <;> simp

/-- A number that is denoted, up to its sign, by digits that are not too many can be written. -/
theorem isWritable_of_digits {number : Int} {digits : List Nat}
    (magnitude : number.natAbs = natural digits) (small : ∀ digit ∈ digits, digit < 10)
    (short : digits.length ≤ maxDigits) : IsWritable number := by
  unfold IsWritable
  generalize maxDigits = limit at short ⊢
  rw [magnitude]
  exact Nat.lt_of_lt_of_le (natural_lt small) (Nat.pow_le_pow_right (by decide) short)

/-- **An integer that has been read can be written.** -/
theorem isWritable_of_integer {text : Text} {number : Int} (read : integer text = .ok number) :
    IsWritable number := by
  obtain ⟨digits, small, short, magnitude⟩ := exists_digits_of_integer read
  exact isWritable_of_digits magnitude small short

end Text

end Recurrence
