/-
**Forms that are filled in with named entries.**

A form has fields with names, some of which have to be filled in. `Form.fill` makes a draft from
named entries; an entry that the form has no field for is reported before fields that are missing.
One name is taken already by the form itself.
-/
import Recurrence.Rule.Draft
import Recurrence.Text.Quoted

namespace Recurrence

/-- Why a form cannot be filled in with named entries. -/
inductive FormError where
  /-- The form has no field of that name. -/
  | unknownField (form : String) (field : Text)
  /-- What the form is filled in by has given this name another meaning. -/
  | takenName (operation name : String)
  /-- A record has no column of that name. -/
  | unknownColumn (record : String) (column : Text)
  /-- Fields that have to be filled in are missing. -/
  | missingFields (form : String) (first : String) (others : List String)
deriving DecidableEq

namespace FormError

/-- Names in quotes, the last two joined by `and`, with commas from three names on. -/
def listing : List String → String
  | [] => ""
  | [only] => s!"'{only}'"
  | [first, second] => s!"'{first}' and '{second}'"
  | names =>
    let quotedNames := names.map fun name => s!"'{name}'"
    ", ".intercalate quotedNames.dropLast ++ ", and " ++ quotedNames.getLastD ""

/-- The wording of each cause. -/
def message : FormError → Text
  | unknownField form field =>
    s!"{form}.__init__() got an unexpected keyword argument '" ++ field ++ "'"
  | takenName operation name => s!"{operation}() got multiple values for argument '{name}'"
  | unknownColumn record column =>
    column.quoted ++ s!" is an invalid keyword argument for {record}"
  | missingFields form first others =>
    let count := others.length + 1
    let plural := if others.isEmpty then "" else "s"
    s!"{form}.__init__() missing {count} required keyword-only argument{plural}: " ++
      listing (first :: others)

end FormError

/-- A form with its name, its fields and those that have to be filled in. -/
structure Form where
  name : String
  fields : List Field
  required : List Field
deriving DecidableEq

/-- The form for drafts. -/
def Form.draft : Form where
  name := "RuleDraft"
  fields := Field.all
  required := [.recurrenceType, .startDate]

/-- The form for rules of a kind. -/
def Kind.form (kind : Kind) : Form where
  name := kind.formName
  fields := [.interval, .startDate, .endDate] ++ kind.ownFields
  required := .startDate :: kind.ownFields

/-- The cause for refusing an entry that a form has no field for. -/
def FormError.ofUnknown (form : String) (field : Text) : FormError :=
  if field = "self" then .takenName (form ++ ".__init__") "self" else .unknownField form field

/-- Named entries as changes of a form's fields; the first name that is unknown is reported. -/
def Form.changes (form : Form) (entries : List (Text × Value)) :
    Except FormError (List (Field × Value)) :=
  entries.mapM fun (name, value) =>
    match name.string?.bind (Field.find? form.fields) with
    | some field => .ok (field, value)
    | none => .error (.ofUnknown form.name name)

/-- Fills in a form with named entries. -/
def Form.fill (form : Form) (entries : List (Text × Value)) : Except FormError Draft := do
  let changes ← form.changes entries
  match form.required.filter (· ∉ changes.map (·.1)) with
  | [] => return Draft.blank.setAll changes
  | first :: others => throw (.missingFields form.name first.name (others.map (·.name)))

end Recurrence
