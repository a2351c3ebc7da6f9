/-
**How JSON is encoded.**

JSON arrives as bytes in UTF-8, UTF-16 or UTF-32. Its first characters are ASCII, so the zeros among
the first bytes tell which of these it is, and in which order the bytes of a number stand. A byte
order mark in front of UTF-8 is passed over. In UTF-16 and UTF-32 surrogates may stand alone.
-/
import Recurrence.Text.Basic

namespace Recurrence.Json

/-- The order of the bytes of a number. -/
inductive ByteOrder where
  | bigEndian
  | littleEndian
deriving DecidableEq

/-- An encoding of characters. -/
inductive Encoding where
  | utf8
  | utf16 (order : ByteOrder)
  | utf32 (order : ByteOrder)
deriving DecidableEq

/-- The encoding that the first bytes, and the number of bytes, speak for. -/
def encodingOf : List UInt8 → Encoding
  | [0, _] => .utf16 .bigEndian
  | [_, 0] => .utf16 .littleEndian
  | 0 :: 0 :: _ :: _ :: _ => .utf32 .bigEndian
  | 0 :: _ :: _ :: _ :: _ => .utf16 .bigEndian
  | _ :: 0 :: 0 :: 0 :: _ => .utf32 .littleEndian
  | _ :: 0 :: _ :: _ :: _ => .utf16 .littleEndian
  | _ => .utf8

/-- The number in some bytes. -/
def numberIn (order : ByteOrder) (bytes : List UInt8) : Nat :=
  let digits := match order with
    | .bigEndian => bytes
    | .littleEndian => bytes.reverse
  digits.foldl (fun number byte => 256 * number + byte.toNat) 0

/-- The numbers in pairs of bytes; a single byte must not be left. -/
def units16? (order : ByteOrder) : List UInt8 → Option (List Nat)
  | [] => some []
  | [_] => none
  | first :: second :: rest => (units16? order rest).map (numberIn order [first, second] :: ·)

/-- The code points in UTF-16: a number, or a pair of surrogates. -/
def codePointsOf : List Nat → List CodePoint
  | high :: low :: rest =>
    if 0xd800 ≤ high ∧ high < 0xdc00 ∧ 0xdc00 ≤ low ∧ low < 0xe000 then
      .ofCode (0x10000 + (high - 0xd800) * 0x400 + (low - 0xdc00)) :: codePointsOf rest
    else .ofCode high :: codePointsOf (low :: rest)
  | [last] => [.ofCode last]
  | [] => []

/-- The code points in UTF-32: numbers of four bytes, none of them too large. -/
def codePoints32? (order : ByteOrder) : List UInt8 → Option (List CodePoint)
  | [] => some []
  | a :: b :: c :: d :: rest =>
    let code := numberIn order [a, b, c, d]
    if code ≤ 0x10ffff then (codePoints32? order rest).map (.ofCode code :: ·) else none
  | _ => none

/-- The text in a content whose bytes may stand for another encoding than the one it is given in. -/
def decode? (content : String) : Option Text :=
  let bytes := content.toUTF8.toList
  match encodingOf bytes with
  | .utf8 =>
    match content.toList with
    | '\ufeff' :: rest => some (.ofChars rest)
    | chars => some (.ofChars chars)
  | .utf16 order => (units16? order bytes).map fun units => ⟨codePointsOf units⟩
  | .utf32 order => (codePoints32? order bytes).map .mk

end Recurrence.Json
