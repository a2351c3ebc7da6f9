/-
**Writing JSON.**

Text is written with its quotes, backslashes, control characters and surrogates escaped, dates and
dates with a time as text, doubles with the fewest digits that read back. JSON proper has no words
for doubles that are not finite and no code points but characters; `isProper` tells which values do
without them.
-/
import Recurrence.Value.Basic
import Recurrence.Text.Quoted

namespace Recurrence.Json

/-- The written form of one code point of a text. -/
def escapeCodePoint : CodePoint → List Char
  | .surrogate offset => '\\' :: 'u' :: Text.hexadecimal 4 (CodePoint.surrogate offset).code
  | .char char =>
    if char = '"' ∨ char = '\\' then ['\\', char]
    else if char.toNat < 0x20 then '\\' :: 'u' :: Text.hexadecimal 4 char.toNat
    else [char]

/-- A text between quotes. -/
def writeText (text : Text) : String :=
  String.ofList ('"' :: text.codePoints.flatMap escapeCodePoint ++ ['"'])

/-- A double, those that are not finite by their names. -/
def writeDouble : Double → String
  | .notANumber => "NaN"
  | .infinite negative => if negative then "-Infinity" else "Infinity"
  | number => number.display

/-- The written form of a value. -/
def write : Value → String
  | .null => "null"
  | .bool value => if value then "true" else "false"
  | .int value => toString value
  | .double value => writeDouble value
  | .text value => writeText value
  | .list [] => "[]"
  | .list (item :: items) => writeItems ("[" ++ write item) items ++ "]"
  | .object [] => "\x7b\x7d"
  | .object ((name, value) :: entries) =>
    writeEntries ("\x7b" ++ writeText name ++ ":" ++ write value) entries ++ "\x7d"
  | .date value => writeText value.iso
  | .dateTime value => writeText value.iso
where
  /-- What has been written, followed by further items of a list. -/
  writeItems (written : String) : List Value → String
    | [] => written
    | item :: items => writeItems (written ++ "," ++ write item) items
  /-- What has been written, followed by further entries of an object. -/
  writeEntries (written : String) : List (Text × Value) → String
    | [] => written
    | (name, value) :: entries =>
      writeEntries (written ++ "," ++ writeText name ++ ":" ++ write value) entries

/-- Whether all code points of a text are characters. -/
def isProperText (text : Text) : Bool := text.codePoints.all fun codePoint => codePoint.char?.isSome

/-- Whether a value can be written in JSON proper. -/
def isProper : Value → Bool
  | .double (.finite ..) => true
  | .double _ => false
  | .text value => isProperText value
  | .list items => properItems items
  | .object entries => properEntries entries
  | _ => true
where
  /-- Whether all items of a list can be written. -/
  properItems : List Value → Bool
    | [] => true
    | item :: items => isProper item && properItems items
  /-- Whether all entries of an object can be written. -/
  properEntries : List (Text × Value) → Bool
    | [] => true
    | (name, value) :: entries => isProperText name && isProper value && properEntries entries

end Recurrence.Json
