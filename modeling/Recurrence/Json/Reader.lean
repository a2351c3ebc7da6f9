/-
**Reading JSON.**

`Json.read` reads one value with white space around it. A number with a fraction or an exponent is a
double, any other an integer. Of two entries with one name the later value counts, in the place of
the earlier one. The reader takes `NaN`, `Infinity` and `-Infinity` for numbers, and keeps half of a
surrogate pair that is written alone. Integers may have any number of digits, and values may be
nested to any depth, unless `Limits` are set.

Reading goes forward only: every step leaves fewer code points, so their number bounds the number of
steps.
-/
import Recurrence.Value.Basic

namespace Recurrence.Json

/-- Why a text cannot be read. -/
inductive ReadError where
  /-- The text is not JSON. -/
  | malformed
  /-- An integer is too long, or a value is nested too deeply. -/
  | beyondLimits
deriving DecidableEq

/-- The largest number of digits of an integer and the greatest depth of a value. -/
structure Limits where
  digits : Option Nat
  depth : Option Nat
deriving DecidableEq

/-- No limits. -/
def Limits.none : Limits := ⟨.none, .none⟩

/-- The result of reading something from the front of a text, and the rest of the text. -/
abbrev Reading (α : Type) := Except ReadError (α × List CodePoint)

/-- White space between the tokens. -/
def isSpace (char : Char) : Bool := char == ' ' || char == '\t' || char == '\n' || char == '\r'

/-- The text without white space in front. -/
def skipSpace (codePoints : List CodePoint) : List CodePoint :=
  codePoints.dropWhile (CodePoint.isIn isSpace)

/-! ### Text -/

/-- The value of a hexadecimal digit. -/
def hexDigit? (char : Char) : Option Nat :=
  if 'a' ≤ char ∧ char ≤ 'f' then some (char.toNat - 'a'.toNat + 10)
  else if 'A' ≤ char ∧ char ≤ 'F' then some (char.toNat - 'A'.toNat + 10)
  else Text.digit? char

/-- The code written by four hexadecimal digits. -/
def unit? (first second third fourth : CodePoint) : Option Nat :=
  [first, second, third, fourth].foldlM
    (fun code digit => (digit.char?.bind hexDigit?).map (16 * code + ·)) 0

/-- The character that a letter after a backslash stands for. -/
def escaped? : Char → Option Char
  | '"' => some '"'
  | '\\' => some '\\'
  | '/' => some '/'
  | 'b' => some '\x08'
  | 'f' => some '\x0c'
  | 'n' => some '\n'
  | 'r' => some '\r'
  | 't' => some '\t'
  | _ => none

/-- Reads text after its opening quote, the code points read so far being given in reverse. -/
def readText (reversed : List CodePoint) : List CodePoint → Reading Text
  | .char '"' :: rest => .ok (⟨reversed.reverse⟩, rest)
  | .char '\\' :: .char 'u' :: a :: b :: c :: d ::
      .char '\\' :: .char 'u' :: a' :: b' :: c' :: d' :: rest =>
    match unit? a b c d, unit? a' b' c' d' with
    | some high, some low =>
      if 0xd800 ≤ high ∧ high < 0xdc00 ∧ 0xdc00 ≤ low ∧ low < 0xe000 then
        let code := 0x10000 + (high - 0xd800) * 0x400 + (low - 0xdc00)
        readText (.ofCode code :: reversed) rest
      else
        readText (.ofCode high :: reversed)
          (.char '\\' :: .char 'u' :: a' :: b' :: c' :: d' :: rest)
    | _, _ => .error .malformed
  | .char '\\' :: .char 'u' :: a :: b :: c :: d :: rest =>
    match unit? a b c d with
    | some code => readText (.ofCode code :: reversed) rest
    | none => .error .malformed
  | .char '\\' :: .char char :: rest =>
    match escaped? char with
    | some plain => readText (.char plain :: reversed) rest
    | none => .error .malformed
  | .char char :: rest =>
    if char.toNat < 0x20 ∨ char = '\\' then .error .malformed
    else readText (.char char :: reversed) rest
  | .surrogate offset :: rest => readText (.surrogate offset :: reversed) rest
  | [] => .error .malformed
termination_by codePoints => codePoints.length

/-! ### Numbers -/

/-- The ASCII digits in front of a text, and the rest. -/
def spanDigits (codePoints : List CodePoint) : List Char × List CodePoint :=
  let (digits, rest) := codePoints.span (CodePoint.isIn Char.isDigit)
  (digits.filterMap CodePoint.char?, rest)

/-- The number written by digits. -/
def natural (digits : List Char) : Nat := digits.foldl (fun n c => 10 * n + (c.toNat - 48)) 0

/-- Reads the whole part: a zero, or digits that begin with no zero. -/
def readWhole (codePoints : List CodePoint) : Reading (List Char) :=
  match spanDigits codePoints with
  | ('0' :: _, _) => .ok (['0'], codePoints.drop 1)
  | ([], _) => .error .malformed
  | (digits, rest) => .ok (digits, rest)

/-- The fraction in front of a text, if there is one. -/
def readFraction (codePoints : List CodePoint) : Option (List Char) × List CodePoint :=
  match codePoints with
  | .char '.' :: rest =>
    match spanDigits rest with
    | ([], _) => (none, codePoints)
    | (digits, rest) => (some digits, rest)
  | _ => (none, codePoints)

/-- The exponent in front of a text, if there is one. -/
def readExponent (codePoints : List CodePoint) : Option Int × List CodePoint :=
  let signed (sign : Int) (after : List CodePoint) : Option Int × List CodePoint :=
    match spanDigits after with
    | ([], _) => (none, codePoints)
    | (digits, rest) => (some (sign * natural digits), rest)
  match codePoints with
  | .char mark :: rest =>
    if mark = 'e' ∨ mark = 'E' then
      match rest with
      | .char '-' :: rest => signed (-1) rest
      | .char '+' :: rest => signed 1 rest
      | _ => signed 1 rest
    else (none, codePoints)
  | _ => (none, codePoints)

/-- Reads a number without its sign. -/
def readNumber (limits : Limits) (negative : Bool) (codePoints : List CodePoint) :
    Except ReadError (Value × List CodePoint) := do
  let (whole, rest) ← readWhole codePoints
  let (fraction, rest) := readFraction rest
  let (exponent, rest) := readExponent rest
  if fraction.isNone ∧ exponent.isNone then
    if limits.digits.any (· < whole.length) then throw .beyondLimits
    let magnitude : Int := natural whole
    return (.int (if negative then -magnitude else magnitude), rest)
  let decimals := fraction.getD []
  let power := exponent.getD 0 - decimals.length
  return (.double (Double.ofDecimal negative (natural (whole ++ decimals)) power), rest)

/-! ### Values -/

/-- The values that are written as words. -/
def words : List (Text × Value) :=
  [("null", .null), ("true", .bool true), ("false", .bool false), ("NaN", .double .notANumber),
    ("Infinity", .double (.infinite false)), ("-Infinity", .double (.infinite true))]

/-- Reads a value that is written as a word. -/
def readWord? (codePoints : List CodePoint) : Option (Value × List CodePoint) :=
  words.findSome? fun (word, value) =>
    if word.codePoints.isPrefixOf codePoints then some (value, codePoints.drop word.length)
    else none

/-- An object's entries with one more, a known name keeping its place. -/
def setEntry (name : Text) (value : Value) : List (Text × Value) → List (Text × Value)
  | [] => [(name, value)]
  | (known, old) :: entries =>
    if known = name then (known, value) :: entries
    else (known, old) :: setEntry name value entries

/-- Entries read in reverse, brought in order; names that come again are set anew. -/
def objectOf (reversed : List (Text × Value)) : Value :=
  let entries := reversed.reverse
  if (entries.map (·.1)).Nodup then .object entries
  else .object (entries.foldl (fun known (name, value) => setEntry name value known) [])

mutual

/-- Reads a value at a depth. -/
def readValue (limits : Limits) (depth : Nat) : (steps : Nat) → List CodePoint → Reading Value
  | 0, _ => .error .malformed
  | steps + 1, codePoints =>
    let codePoints := skipSpace codePoints
    match readWord? codePoints with
    | some reading => .ok reading
    | none =>
      match codePoints with
      | .char '-' :: rest => readNumber limits true rest
      | .char '"' :: rest => (readText [] rest).map fun (text, rest) => (.text text, rest)
      | .char '[' :: rest =>
        if limits.depth.any (· ≤ depth) then .error .beyondLimits
        else
          match skipSpace rest with
          | .char ']' :: rest => .ok (.list [], rest)
          | rest => readItems limits (depth + 1) steps [] rest
      | .char '\x7b' :: rest =>
        if limits.depth.any (· ≤ depth) then .error .beyondLimits
        else
          match skipSpace rest with
          | .char '\x7d' :: rest => .ok (.object [], rest)
          | rest => readEntries limits (depth + 1) steps [] rest
      | codePoints => readNumber limits false codePoints

/-- Reads the items of a list up to its closing bracket, those read so far being given in
reverse. -/
def readItems (limits : Limits) (depth : Nat) :
    (steps : Nat) → List Value → List CodePoint → Reading Value
  | 0, _, _ => .error .malformed
  | steps + 1, reversed, codePoints =>
    match readValue limits depth steps codePoints with
    | .error error => .error error
    | .ok (item, rest) =>
      match skipSpace rest with
      | .char ',' :: rest => readItems limits depth steps (item :: reversed) rest
      | .char ']' :: rest => .ok (.list (item :: reversed).reverse, rest)
      | _ => .error .malformed

/-- Reads the entries of an object up to its closing brace, those read so far being given in
reverse. -/
def readEntries (limits : Limits) (depth : Nat) :
    (steps : Nat) → List (Text × Value) → List CodePoint → Reading Value
  | 0, _, _ => .error .malformed
  | steps + 1, reversed, codePoints =>
    match skipSpace codePoints with
    | .char '"' :: rest =>
      match readText [] rest with
      | .error error => .error error
      | .ok (name, rest) =>
        match skipSpace rest with
        | .char ':' :: rest =>
          match readValue limits depth steps rest with
          | .error error => .error error
          | .ok (value, rest) =>
            match skipSpace rest with
            | .char ',' :: rest => readEntries limits depth steps ((name, value) :: reversed) rest
            | .char '\x7d' :: rest => .ok (objectOf ((name, value) :: reversed), rest)
            | _ => .error .malformed
        | _ => .error .malformed
    | _ => .error .malformed

end

/-- Reads a text that is one JSON value, within limits. -/
def read (limits : Limits) (text : Text) : Except ReadError Value := do
  let (value, rest) ← readValue limits 0 (2 * text.length + 2) text.codePoints
  if (skipSpace rest).isEmpty then return value else throw .malformed

end Recurrence.Json
