/-
**Why an access to stored drafts fails.**

A draft is missing, an edit expects another version of it than there is, or something cannot be
stored: a number that is too wide, or a name with surrogates, which have no encoding.
-/
import Recurrence.Value.Display

namespace Recurrence

/-- The causes of failure of an access to stored drafts. -/
inductive StoreError where
  /-- No draft has this number. -/
  | notFound (id : Value)
  /-- The editor has another version in mind than the draft has. -/
  | staleVersion (id current : Int) (expected : Value)
  /-- Another session has changed the draft since it was read. -/
  | modifiedConcurrently (id : Int)
  /-- A number does not fit into the 64 bits of a stored integer. -/
  | numberTooWide
  /-- A name has surrogates, the first ones of which are kept with their place. -/
  | notEncodable (surrogates : List CodePoint) (start : Nat)
deriving DecidableEq

/-- The wording of each cause. -/
def StoreError.message : StoreError → Text
  | notFound id => "Rule draft " ++ id.plain ++ " not found"
  | staleVersion id current expected =>
    s!"Rule draft {id} is at version {current}, not " ++ expected.plain
  | modifiedConcurrently id => s!"Rule draft {id} was modified concurrently"
  | numberTooWide => "Python int too large to convert to SQLite INTEGER"
  | notEncodable [surrogate] start =>
    "'utf-8' codec can't encode character '" ++ .ofChars (Text.escapeCode surrogate.code) ++
      s!"' in position {start}: surrogates not allowed"
  | notEncodable surrogates start =>
    s!"'utf-8' codec can't encode characters in position {start}-{start + surrogates.length - 1}" ++
      ": surrogates not allowed"

/-- A text as a string, which is what can be stored. -/
def Text.stored (text : Text) : Except StoreError String :=
  let isChar (codePoint : CodePoint) : Bool := codePoint.char?.isSome
  match text.string? with
  | some string => .ok string
  | none =>
    let (before, rest) := text.codePoints.span isChar
    .error (.notEncodable (rest.takeWhile fun next => !isChar next) before.length)

end Recurrence
