/-
**Stored lists of numbers are read back.**

Numbers of any size and sign are read back from the text that is stored for them, as long as they
can be written at all; so different lists are stored as different texts. A stored text may also be
loose, with blank parts, white space, signs, underscores and digits of other scripts. The numbers
that are read from it can be written, and then are read back the same. Texts that are joined by a
comma are read one after the other, up to the first part that is no integer.

* `WeekdayText.write_eq`: a list is written unless one of its numbers has too many digits;
* `WeekdayText.formatForm_list`: numbers that stand on a form are written the same;
* `WeekdayText.isListed_of_isWritable`: a number that can be written stands for itself in a list;
* `WeekdayText.written_read_back`: what is written is read back, and what is read can be written;
* `WeekdayText.tooWide_not_read_back`: a number with too many digits is neither written nor read;
* `WeekdayText.parts_append`: joined texts have the parts of the one and then those of the other;
* `WeekdayText.parse_joined`: so they are read one after the other.
-/
import Recurrence.Proofs.Rule.Checks
import Recurrence.Proofs.Store.Encoding
import Recurrence.Proofs.Text.Numeral

namespace Recurrence

namespace WeekdayText

/-! ### Writing -/

/-- Numbers are written one by one unless one of them has too many digits. -/
theorem mapM_decimal (days : List Int) :
    days.mapM Text.decimal =
      if ∀ day ∈ days, IsWritable day then
        .ok (days.map fun day => Text.ofString (toString day))
      else .error .unwritable := by
  induction days with
  | nil => rfl
  | cons day days ih =>
    rw [List.mapM_cons, ih]
    unfold Text.decimal
    by_cases first : IsWritable day
    · by_cases others : ∀ other ∈ days, IsWritable other
      · rw [if_pos first, if_pos others, if_pos (List.forall_mem_cons.mpr ⟨first, others⟩)]
        rfl
      · rw [if_pos first, if_neg others, if_neg fun all => others (List.forall_mem_cons.mp all).2]
        rfl
    · rw [if_neg first, if_neg fun all => first (List.forall_mem_cons.mp all).1]
      rfl

/-- **A list is written unless one of its numbers has too many digits.** -/
theorem write_eq (days : List Int) :
    write days =
      if ∀ day ∈ days, IsWritable day then .ok (format days) else .error .unwritable := by
  unfold write
  rw [mapM_decimal]
  split
  · cases days <;> rfl
  · rfl

theorem write_eq_ok_iff {days : List Int} {stored : Option Text} :
    write days = .ok stored ↔ (∀ day ∈ days, IsWritable day) ∧ format days = stored := by
  rw [write_eq]
  by_cases writable : ∀ day ∈ days, IsWritable day
  · rw [if_pos writable, Except.ok.injEq]
    exact ⟨fun same => ⟨writable, same⟩, fun both => both.2⟩
  · rw [if_neg writable]
    exact ⟨nofun, fun both => absurd both.1 writable⟩

/-- **Numbers that stand on a form are written as they are stored.** -/
theorem formatForm_list (days : List Int) :
    formatForm (.list (days.map .int)) = .ok (format days) := by
  cases days with
  | nil => rfl
  | cons day days =>
    have texts : ((day :: days).map Value.int).map Value.plain =
        (day :: days).map fun day => Text.ofString (toString day) :=
      List.map_map
    show (.ok (some (.join "," (((day :: days).map Value.int).map Value.plain))) :
      Except Mismatch (Option Text)) = _
    rw [texts]
    rfl

/-! ### Parts of a text -/

/-- The parts of a text between its commas that are not blank. -/
def parts (text : Text) : List (List CodePoint) :=
  (text.codePoints.splitOn (.char ',')).filter fun part => !part.all (CodePoint.isIn Text.isBlank)

theorem parse_some (text : Text) :
    parse (some text) = (parts text).mapM fun part => Text.integer ⟨part⟩ :=
  rfl

/-- A text without a comma is one part if it is not blank. -/
theorem parts_eq_single {text : Text} (commaless : .char ',' ∉ text.codePoints)
    (visible : text.codePoints.all (CodePoint.isIn Text.isBlank) = false) :
    parts text = [text.codePoints] := by
  have whole : text.codePoints.splitOn (.char ',') = [text.codePoints] := by
    refine List.splitOnP_eq_singleton fun codePoint inside => ?_
    rw [beq_eq_false_iff_ne]
    rintro rfl
    exact commaless inside
  unfold parts
  rw [whole, List.filter_cons_of_pos (by rw [visible, Bool.not_false]), List.filter_nil]

/-! ### Reading back -/

/-- The decimal form of an integer has digits, and nothing else but a minus sign. -/
theorem codePoints_toString (number : Int) :
    (∃ char : Char, char.isDigit = true ∧
      .char char ∈ (Text.ofString (toString number)).codePoints) ∧
    ∀ char : Char, .char char ∈ (Text.ofString (toString number)).codePoints →
      char = '-' ∨ char.isDigit = true := by
  have digits := Text.isDigit_of_mem_toDigits number.natAbs
  rw [Text.ofString_toString]
  constructor
  · obtain ⟨first, inside⟩ := List.exists_mem_of_ne_nil _
      (Nat.toDigits_ne_nil (n := number.natAbs) (b := 10))
    exact ⟨first, digits first inside, List.mem_map_of_mem (List.mem_append_right _ inside)⟩
  · intro char inside
    obtain ⟨_, member, same⟩ := List.mem_map.mp inside
    cases same
    rcases List.mem_append.mp member with sign | digit
    · split at sign
      · exact Or.inl (List.mem_singleton.mp sign)
      · cases sign
    · exact Or.inr (digits char digit)

theorem commaless_toString (number : Int) :
    .char ',' ∉ (Text.ofString (toString number)).codePoints := by
  intro comma
  rcases (codePoints_toString number).2 ',' comma with minus | digit
  · cases minus
  · cases digit

theorem visible_toString (number : Int) :
    (Text.ofString (toString number)).codePoints.all (CodePoint.isIn Text.isBlank) = false := by
  obtain ⟨char, digit, inside⟩ := (codePoints_toString number).1
  refine List.all_eq_false.mpr ⟨.char char, inside, ?_⟩
  rw [Bool.not_eq_true]
  exact Text.isBlank_of_isDigit digit

/-- **A number that can be written stands for itself in a list.** -/
theorem isListed_of_isWritable {number : Int} (writable : IsWritable number) :
    IsListed number where
  commaless := commaless_toString number
  visible := visible_toString number
  read := by rw [Text.integer_toString, if_pos writable]

/-- Numbers that can be written are read back. -/
theorem parse_format_of_isWritable {days : List Int} (writable : ∀ day ∈ days, IsWritable day) :
    parse (format days) = .ok days :=
  parse_format fun day inside => isListed_of_isWritable (writable day inside)

/-- What is read item by item comes of items that are read. -/
theorem exists_item_of_mapM {α β ε : Type} {read : α → Except ε β} {items : List α}
    {contents : List β} (made : items.mapM read = .ok contents) :
    ∀ content ∈ contents, ∃ item ∈ items, read item = .ok content := by
  induction items generalizing contents with
  | nil =>
    cases made
    exact fun _ inside => absurd inside List.not_mem_nil
  | cons item items ih =>
    rw [List.mapM_cons] at made
    obtain ⟨first, found, made⟩ := bind_eq_ok_iff.mp made
    obtain ⟨others, later, made⟩ := bind_eq_ok_iff.mp made
    cases made
    refine List.forall_mem_cons.mpr ⟨⟨item, List.mem_cons_self .., found⟩, fun content inside => ?_⟩
    obtain ⟨other, member, read⟩ := ih later content inside
    exact ⟨other, List.mem_cons_of_mem item member, read⟩

/-- Numbers that have been read can be written. -/
theorem isWritable_of_parse {stored : Option Text} {days : List Int}
    (read : parse stored = .ok days) : ∀ day ∈ days, IsWritable day := by
  intro day inside
  obtain ⟨part, _, read⟩ := exists_item_of_mapM read day inside
  exact Text.isWritable_of_integer read

/-- **What is written is read back, and what is read can be written and is read back then.** A list
is not written if one of its numbers has too many digits, and only the empty list is written as no
text. Different lists are written differently. -/
theorem written_read_back :
    (∀ days : List Int, (∀ day ∈ days, IsWritable day) →
      ∃ stored, write days = .ok stored ∧ formatForm (.list (days.map .int)) = .ok stored ∧
        parse stored = .ok days ∧ (stored = none ↔ days = [])) ∧
    (∀ days : List Int, (∃ day ∈ days, ¬ IsWritable day) → write days = .error .unwritable) ∧
    (∀ (first second : List Int) (stored : Option Text),
      write first = .ok stored → write second = .ok stored → first = second) ∧
    ∀ (stored : Option Text) (days : List Int), parse stored = .ok days →
      ∃ again, write days = .ok again ∧ parse again = .ok days := by
  refine ⟨fun days writable => ?_, fun days wide => ?_,
    fun first second stored written written' => ?_, fun stored days read => ?_⟩
  · refine ⟨format days, write_eq_ok_iff.mpr ⟨writable, rfl⟩, formatForm_list days,
      parse_format_of_isWritable writable, ?_⟩
    cases days with
    | nil => exact iff_of_true rfl rfl
    | cons day days => exact iff_of_false nofun nofun
  · obtain ⟨day, inside, wide⟩ := wide
    rw [write_eq, if_neg fun all => wide (all day inside)]
  · obtain ⟨writable, rfl⟩ := write_eq_ok_iff.mp written
    obtain ⟨writable', same⟩ := write_eq_ok_iff.mp written'
    have back := parse_format_of_isWritable writable
    rw [← same, parse_format_of_isWritable writable'] at back
    exact (Except.ok.inj back).symm
  · have writable := isWritable_of_parse read
    exact ⟨format days, write_eq_ok_iff.mpr ⟨writable, rfl⟩, parse_format_of_isWritable writable⟩

/-- A negative number, a large one, and a text that is written loosely. -/
theorem written_read_back_loose :
    (∃ stored, write [-7, 100000000000000000000, -7] = .ok stored ∧
      parse stored = .ok [-7, 100000000000000000000, -7]) ∧
    parse (some " +1_0,, -\u0667 ") = .ok [10, -7] ∧
    ∃ again, write [10, -7] = .ok again ∧ parse again = .ok [10, -7] := by
  have read : parse (some " +1_0,, -\u0667 ") = .ok [10, -7] :=
    eq_ok_of_toOption (by decide +kernel)
  obtain ⟨back, _, _, again⟩ := written_read_back
  obtain ⟨stored, written, _, same, _⟩ := back [-7, 100000000000000000000, -7] (by decide +kernel)
  exact ⟨⟨stored, written, same⟩, read, again _ _ read⟩

/-! ### Numbers with too many digits -/

/-- The least number with too many digits. -/
def tooWide : Int := (Nat.pow 10 maxDigits : Nat)

/-- The text of that number. -/
def tooWideText : Text := .ofChars ('1' :: List.replicate maxDigits '0')

/-- A power of ten is written with a one and zeros. -/
theorem toDigits_pow (count : Nat) :
    Nat.toDigits 10 (Nat.pow 10 count) = '1' :: List.replicate count '0' := by
  induction count with
  | zero => rfl
  | succ count ih =>
    have large : 10 ≤ 10 ^ (count + 1) := Nat.le_self_pow (Nat.succ_ne_zero count) 10
    have quotient : 10 ^ (count + 1) / 10 = 10 ^ count := by
      rw [Nat.pow_succ 10 count, Nat.mul_div_cancel _ (by decide)]
    have remainder : 10 ^ (count + 1) % 10 = 0 := by
      rw [Nat.pow_succ 10 count, Nat.mul_mod_left]
    show Nat.toDigits 10 (10 ^ (count + 1)) = _
    rw [Nat.toDigits_of_base_le (by decide) large, quotient, remainder, List.replicate_succ']
    exact congrArg (· ++ ['0']) ih

theorem tooWide_digits :
    Nat.toDigits 10 tooWide.natAbs = '1' :: List.replicate maxDigits '0' := by
  rw [tooWide, Int.natAbs_natCast]
  exact toDigits_pow maxDigits

theorem toString_tooWide : Text.ofString (toString tooWide) = tooWideText := by
  have positive : ¬ tooWide < 0 := Int.not_lt.mpr (Int.natCast_nonneg _)
  rw [Text.ofString_toString, tooWide_digits, decide_eq_false positive]
  rfl

/-- A number with too many digits is neither written nor read. -/
theorem tooWide_not_read_back :
    ¬ (∃ stored, write [tooWide] = .ok stored ∧ parse stored = .ok [tooWide]) ∧
      parse (some tooWideText) = .error (.tooLong 4301) := by
  have wide : ¬ IsWritable tooWide := by
    unfold IsWritable tooWide
    rw [Int.natAbs_natCast]
    exact Nat.lt_irrefl _
  have digits : (Nat.toDigits 10 tooWide.natAbs).length = 4301 := by
    rw [tooWide_digits, List.length_cons, List.length_replicate, maxDigits]
  constructor
  · rintro ⟨stored, written, _⟩
    exact wide ((write_eq_ok_iff.mp written).1 tooWide (List.mem_singleton_self tooWide))
  · rw [← toString_tooWide, parse_some,
      parts_eq_single (commaless_toString tooWide) (visible_toString tooWide),
      List.mapM_cons, Text.integer_toString, if_neg wide, digits]
    rfl

/-! ### Joined texts -/

/-- **Joined texts have the parts of the one and then those of the other.** -/
theorem parts_append (first second : Text) :
    parts (first ++ "," ++ second) = parts first ++ parts second := by
  have joined : (first ++ "," ++ second).codePoints =
      first.codePoints ++ .char ',' :: second.codePoints :=
    List.append_assoc first.codePoints [.char ','] second.codePoints
  unfold parts
  rw [joined, List.splitOn_append_cons_self, List.filter_append]

theorem parse_append (first second : Text) :
    parse (some (first ++ "," ++ second)) = do
      let before ← parse (some first)
      let after ← parse (some second)
      return before ++ after := by
  simp only [parse_some, parts_append, List.mapM_append]

/-- **Texts that are joined by a comma are read one after the other.** The numbers of the one come
before those of the other, and what is wrong with the first text is reported before what is wrong
with the second. -/
theorem parse_joined (first second : Text) :
    (∀ days, parse (some (first ++ "," ++ second)) = .ok days ↔
      ∃ before after, parse (some first) = .ok before ∧ parse (some second) = .ok after ∧
        days = before ++ after) ∧
    ∀ cause, parse (some (first ++ "," ++ second)) = .error cause ↔
      parse (some first) = .error cause ∨
        (∃ before, parse (some first) = .ok before) ∧ parse (some second) = .error cause := by
  rw [parse_append]
  refine ⟨fun days => ⟨fun read => ?_, ?_⟩, fun cause => ⟨fun refused => ?_, ?_⟩⟩
  · obtain ⟨before, found, read⟩ := bind_eq_ok_iff.mp read
    obtain ⟨after, found', read⟩ := bind_eq_ok_iff.mp read
    exact ⟨before, after, found, found', (Except.ok.inj read).symm⟩
  · rintro ⟨before, after, found, found', rfl⟩
    rw [found, found']
    rfl
  · rcases bind_eq_error_iff.mp refused with wrong | ⟨before, found, refused⟩
    · exact Or.inl wrong
    · rcases bind_eq_error_iff.mp refused with wrong | ⟨_, _, impossible⟩
      · exact Or.inr ⟨⟨before, found⟩, wrong⟩
      · cases impossible
  · rintro (wrong | ⟨⟨before, found⟩, wrong⟩)
    · rw [wrong]
      rfl
    · rw [found, wrong]
      rfl

end WeekdayText

end Recurrence
