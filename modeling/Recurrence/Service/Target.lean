/-
**Targets of requests.**

A target is written as a path, with a query behind a question mark. Slashes and an authority in
front of the path do not count, a fragment is cut off, and the segments `.` and `..` are resolved.
Then percent signs with two hexadecimal digits are read as bytes, twice over in the path and once in
the query.

* `Target.ofWritten`: the path and the parameters of a written target.
-/
import Recurrence.Json.Reader
import Recurrence.Text.Utf8

namespace Recurrence.Service

/-- Where a request is directed to. -/
structure Target where
  path : String
  parameters : List (Text × Text)

namespace Target

/-! ### Percent signs -/

/-- The bytes of a character in UTF-8. -/
def bytesOf (char : Char) : List Nat := (String.singleton char).toUTF8.toList.map UInt8.toNat

/-- The bytes of characters, percent signs with two hexadecimal digits standing for one byte. -/
def percentBytes : List Char → List Nat
  | '%' :: first :: second :: rest =>
    match Json.hexDigit? first, Json.hexDigit? second with
    | some high, some low => (16 * high + low) :: percentBytes rest
    | _, _ => '%'.toNat :: percentBytes (first :: second :: rest)
  | char :: rest => bytesOf char ++ percentBytes rest
  | [] => []

/-- Text with its percent signs read as bytes. -/
def percentDecoded (chars : List Char) : List Char := Text.ofUtf8 (percentBytes chars)

/-! ### Paths -/

/-- The segments of a path without those that stand for the same or the outer directory. The first
segment, before the first slash, is never left. -/
def resolved (segments : List (List Char)) : List (List Char) :=
  (segments.foldl (fun kept segment =>
    if segment = ['.'] then kept
    else if segment = ['.', '.'] then
      if kept = [[]] then kept else kept.drop 1
    else segment :: kept) []).reverse

/-- A path with its dots resolved. -/
def normalPath (path : List Char) : List Char :=
  match ['/'].intercalate (resolved (path.splitOn '/')) with
  | [] => ['/']
  | normal => normal

/-- A target without an authority, which begins with two slashes. -/
def withoutAuthority (chars : List Char) : List Char :=
  match chars with
  | '/' :: '/' :: rest => rest.dropWhile fun char => char ≠ '/' ∧ char ≠ '?'
  | _ => chars

/-! ### Queries -/

/-- One parameter, its name before the first equals sign and its content behind. -/
def parameter (written : List Char) : Text × Text :=
  let plain (chars : List Char) : Text :=
    .ofChars (percentDecoded (chars.map fun char => if char = '+' then ' ' else char))
  let (name, content) := written.span (· ≠ '=')
  (plain name, plain (content.drop 1))

/-- The parameters of a query. -/
def parametersOf (query : List Char) : List (Text × Text) :=
  ((query.splitOn '&').filter fun written => !written.isEmpty).map parameter

/-! ### Targets -/

/-- The path and the parameters of a written target. -/
def ofWritten (written : String) : Target :=
  let whole := withoutAuthority (written.toList.takeWhile (· ≠ '#'))
  let relative := whole.dropWhile (· == '/')
  let (path, query) := relative.span (· ≠ '?')
  { path := String.ofList (percentDecoded (percentDecoded (normalPath ('/' :: path))))
    parameters := parametersOf (query.drop 1) }

end Target

end Recurrence.Service
