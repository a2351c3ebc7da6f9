/-
**Reading UTF-8.**

A character is written in one to four bytes, of which the first one tells their number. What is no
character becomes a replacement character, one for every longest beginning of a character.
-/

namespace Recurrence.Text

/-- A character that has been begun: its bits so far, the number of bytes that are missing, and the
range of the next one. -/
structure Begun where
  bits : Nat
  missing : Nat
  least : Nat
  most : Nat

/-- The character that a byte begins, if it takes several bytes. -/
def begun? (byte : Nat) : Option Begun :=
  if byte < 0xc2 ∨ 0xf4 < byte then none
  else if byte < 0xe0 then some ⟨byte - 0xc0, 1, 0x80, 0xbf⟩
  else if byte < 0xf0 then
    some ⟨byte - 0xe0, 2, if byte = 0xe0 then 0xa0 else 0x80, if byte = 0xed then 0x9f else 0xbf⟩
  else
    some ⟨byte - 0xf0, 3, if byte = 0xf0 then 0x90 else 0x80, if byte = 0xf4 then 0x8f else 0xbf⟩

/-- What a byte stands for that begins a character: the beginning of a longer one, or characters. -/
def afterFirst (byte : Nat) : Option Begun × List Char :=
  match begun? byte with
  | some begun => (some begun, [])
  | none => (none, [if byte < 0x80 then Char.ofNat byte else '\ufffd'])

/-- What a byte stands for after the beginning of a character. -/
def afterBegun (begun : Begun) (byte : Nat) : Option Begun × List Char :=
  if begun.least ≤ byte ∧ byte ≤ begun.most then
    let bits := begun.bits * 64 + (byte - 0x80)
    if begun.missing = 1 then (none, [Char.ofNat bits])
    else (some ⟨bits, begun.missing - 1, 0x80, 0xbf⟩, [])
  else
    let (next, chars) := afterFirst byte
    (next, '\ufffd' :: chars)

/-- The characters in some bytes, of which one may have been begun. -/
def ofUtf8From : Option Begun → List Nat → List Char
  | none, [] => []
  | some _, [] => ['\ufffd']
  | begun, byte :: rest =>
    let (next, chars) := begun.elim (afterFirst byte) (afterBegun · byte)
    chars ++ ofUtf8From next rest

/-- The characters in some bytes. -/
def ofUtf8 (bytes : List Nat) : List Char := ofUtf8From none bytes

end Recurrence.Text
