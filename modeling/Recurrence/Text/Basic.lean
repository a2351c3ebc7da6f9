/-
**Texts of code points.**

A text is a list of code points. Nearly always they are characters; but a text that comes out of
JSON may also hold halves of surrogate pairs that stand alone, which are code points without being
characters. Strings, which hold characters only, are used as texts where a text is asked for.

* `Text.string?_ofString`: a string made into a text can be taken out again;
* `Text.ofString_inj`: different strings are different texts;
* `Text.stripped_ofChars`: characters stay characters when blanks are taken away;
* `mem_of_lookup`: what is found by a name is listed with it.
-/

namespace Recurrence

/-! ### Code points -/

/-- A character, or half of a surrogate pair that stands alone. -/
inductive CodePoint where
  | char (value : Char)
  /-- The half with a number, counted from U+D800. -/
  | surrogate (offset : Fin 2048)
deriving DecidableEq

namespace CodePoint

/-- The number of a code point. -/
def code : CodePoint → Nat
  | char value => value.toNat
  | surrogate offset => 0xd800 + offset.val

/-- The code point with a number; numbers that no code point has give the replacement character. -/
def ofCode (code : Nat) : CodePoint :=
  if half : 0xd800 ≤ code ∧ code < 0xe000 then surrogate ⟨code - 0xd800, by omega⟩
  else if code.isValidChar then char (Char.ofNat code)
  else char '\ufffd'

/-- The character that a code point is. -/
def char? : CodePoint → Option Char
  | char value => some value
  | surrogate _ => none

/-- Whether a code point is a character of a class. -/
def isIn (characters : Char → Bool) : CodePoint → Bool
  | char value => characters value
  | surrogate _ => false

end CodePoint

/-! ### Texts -/

/-- A list of code points. -/
@[ext]
structure Text where
  codePoints : List CodePoint
deriving DecidableEq

namespace Text

instance : Inhabited Text := ⟨⟨[]⟩⟩

/-- The text of some characters. -/
def ofChars (chars : List Char) : Text := ⟨chars.map .char⟩

/-- A string as a text. -/
def ofString (string : String) : Text := ofChars string.toList

instance : Coe String Text := ⟨ofString⟩

instance : Append Text := ⟨fun first second => ⟨first.codePoints ++ second.codePoints⟩⟩

/-- The characters of a text that holds nothing else. -/
def chars? (text : Text) : Option (List Char) := text.codePoints.mapM CodePoint.char?

/-- A text that holds characters only, as a string. -/
def string? (text : Text) : Option String := text.chars?.map String.ofList

/-- The number of code points. -/
def length (text : Text) : Nat := text.codePoints.length

/-- Whether a text comes before another; the first code point that differs decides. -/
def less (first second : Text) : Bool :=
  decide (first.codePoints.map CodePoint.code < second.codePoints.map CodePoint.code)

/-- Texts joined, with another text between them. -/
def join (separator : Text) (parts : List Text) : Text :=
  ⟨separator.codePoints.intercalate (parts.map codePoints)⟩

/-- Texts joined by commas. -/
def listing (parts : List Text) : Text := join ", " parts

@[simp]
theorem chars?_ofChars (chars : List Char) : (ofChars chars).chars? = some chars := by
  simp only [chars?, ofChars]
  induction chars with
  | nil => rfl
  | cons char chars ih => simp_all [CodePoint.char?]

/-- The characters of a text are those that it is made of. -/
theorem chars?_eq_some_iff {text : Text} {chars : List Char} :
    text.chars? = some chars ↔ text = ofChars chars := by
  refine ⟨fun read => ?_, fun same => by rw [same, chars?_ofChars]⟩
  obtain ⟨codePoints⟩ := text
  rw [ofChars, Text.mk.injEq]
  change codePoints.mapM CodePoint.char? = some chars at read
  induction codePoints generalizing chars with
  | nil =>
    cases read
    rfl
  | cons codePoint codePoints ih =>
    simp only [List.mapM_cons, Option.bind_eq_bind, Option.bind_eq_some_iff] at read
    obtain ⟨char, first, others, later, same⟩ := read
    cases same
    cases codePoint with
    | surrogate offset => cases first
    | char own =>
      cases first
      rw [List.map_cons, ← ih later]

/-- A string made into a text can be taken out again. -/
@[simp]
theorem string?_ofString (string : String) : (ofString string).string? = some string := by
  simp [string?, ofString]

/-- The string of a text is the one that it is made of. -/
theorem string?_eq_some_iff {text : Text} {string : String} :
    text.string? = some string ↔ text = ofString string := by
  refine ⟨fun found => ?_, fun same => by rw [same, string?_ofString]⟩
  obtain ⟨chars, read, rfl⟩ := Option.map_eq_some_iff.mp found
  rw [ofString, String.toList_ofList]
  exact chars?_eq_some_iff.mp read

/-- Different strings are different texts. -/
@[simp]
theorem ofString_inj {first second : String} : ofString first = ofString second ↔ first = second :=
  ⟨fun same => by simpa using congrArg string? same, congrArg ofString⟩

/-! ### White space -/

/-- White space, as the Unicode property of that name. -/
def isWhiteSpace (char : Char) : Bool :=
  let code := char.toNat
  (0x9 ≤ code && code ≤ 0xd) || code == 0x20 || code == 0x85 || code == 0xa0 || code == 0x1680 ||
    (0x2000 ≤ code && code ≤ 0x200a) || code == 0x2028 || code == 0x2029 || code == 0x202f ||
    code == 0x205f || code == 0x3000

/-- White space and the information separators U+001C to U+001F. -/
def isBlank (char : Char) : Bool :=
  isWhiteSpace char || (0x1c ≤ char.toNat && char.toNat ≤ 0x1f)

/-- A list without the items of a class at both ends. -/
def trim {α : Type} (within : α → Bool) (items : List α) : List α :=
  ((items.dropWhile within).reverse.dropWhile within).reverse

/-- A name without blanks at both ends. -/
def stripped (text : Text) : Text := ⟨trim (CodePoint.isIn isBlank) text.codePoints⟩

/-- Characters without blanks at both ends are characters. -/
theorem stripped_ofChars (chars : List Char) :
    (ofChars chars).stripped = ofChars (trim isBlank chars) := by
  have inside : CodePoint.isIn isBlank ∘ CodePoint.char = isBlank := rfl
  simp only [stripped, ofChars, trim, List.dropWhile_map, ← List.map_reverse, inside]

end Text

/-! ### Named entries -/

/-- The content of the first entry with a name. -/
def entryNamed? {α : Type} (name : String) (entries : List (Text × α)) : Option α :=
  entries.lookup (Text.ofString name)

/-- What is found by a name is listed with it. -/
theorem mem_of_lookup {κ α : Type} [BEq κ] [LawfulBEq κ] {name : κ} {entries : List (κ × α)}
    {content : α} (found : entries.lookup name = some content) : (name, content) ∈ entries := by
  obtain ⟨before, after, split, _⟩ := List.lookup_eq_some_iff.mp found
  rw [split]
  exact List.mem_append_right before List.mem_cons_self

end Recurrence
