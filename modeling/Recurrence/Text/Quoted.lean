/-
**Quoted text in messages.**

A text is quoted with single quotes, or with double quotes when it holds a single and no double one.
The backslash and the quote in use are escaped, line feed, return and tab have short escapes, and
other code points that do not print are written by their number in two, four or eight hexadecimal
digits.
-/
import Recurrence.Text.Basic
import Recurrence.Text.Printable

namespace Recurrence.Text

/-- A number in lower-case hexadecimal digits, with zeros on its left up to a width. -/
def hexadecimal (width code : Nat) : List Char :=
  let digits := Nat.toDigits 16 code
  List.replicate (width - digits.length) '0' ++ digits

/-- The written form of the number of a code point. -/
def escapeCode (code : Nat) : List Char :=
  if code ≤ 0xff then '\\' :: 'x' :: hexadecimal 2 code
  else if code ≤ 0xffff then '\\' :: 'u' :: hexadecimal 4 code
  else '\\' :: 'U' :: hexadecimal 8 code

/-- The written form of one code point between quotes. -/
def escape (quote : Char) : CodePoint → List Char
  | .surrogate offset => escapeCode (CodePoint.surrogate offset).code
  | .char char =>
    if char = quote ∨ char = '\\' then ['\\', char]
    else if char = '\n' then ['\\', 'n']
    else if char = '\r' then ['\\', 'r']
    else if char = '\t' then ['\\', 't']
    else if isPrintable char then [char]
    else escapeCode char.toNat

/-- The quote that a text is written between. -/
def quoteFor (text : Text) : Char :=
  if .char '\'' ∈ text.codePoints ∧ .char '"' ∉ text.codePoints then '"' else '\''

/-- A text between quotes. -/
def quoted (text : Text) : Text :=
  let quote := quoteFor text
  ofChars (quote :: text.codePoints.flatMap (escape quote) ++ [quote])

end Recurrence.Text
