/-
**Calls of the service.**

A path and a method name an `Endpoint`; the checked parts of a request to it make a `Call`. What is
wrong with the path is reported first, then what is wrong with the parameters, then with the body.

* `Endpoint.find`: an unknown path, one with slashes too many and a wrong method are told apart;
* `Endpoint.call`: the call that a request makes.
-/
import Recurrence.Service.Request
import Recurrence.Service.Target
import Recurrence.Settings

namespace Recurrence.Service

/-- What the service can be asked for. -/
inductive Call where
  | health
  | validate (rule : RuleForm)
  | defaults (kind : Text) (anchor : Option Date)
  | preview (rule : RuleForm) (maxCount : Option Int) (hardEndDate : Option Date)
  | calendar (rule : RuleForm) (year month maxCount : Option Int)
  | nthWeekday (year month : Int) (ordinal : Text) (weekday : Int)
  | listDrafts
  | createDraft (name : Text) (rule : RuleForm)
  | getDraft (id : Int)
  | updateDraft (id expectedVersion : Int) (rule : RuleForm)
  | switchDraft (id expectedVersion : Int) (kind : Text) (anchor : Option Date)
  | previewDraft (id : Int) (maxCount : Option Int) (hardEndDate : Option Date)
deriving DecidableEq

/-- Where a request is directed to; the number of a draft is still text. -/
inductive Endpoint where
  | health
  | validate
  | defaults
  | preview
  | calendar
  | nthWeekday
  | listDrafts
  | createDraft
  | getDraft (id : String)
  | updateDraft (id : String)
  | switchDraft (id : String)
  | previewDraft (id : String)
deriving DecidableEq

namespace Endpoint

/-! ### Paths -/

/-- The parts of a path between its slashes. -/
def segments (path : String) : List String := (path.toList.splitOn '/').map String.ofList

/-- The endpoints at a path as it is written, each with its method. -/
def atWrittenPath (path : String) : List (String × Endpoint) :=
  match segments path with
  | ["", "api", "health"] => [("GET", health)]
  | ["", "api", "rules", "validate"] => [("POST", validate)]
  | ["", "api", "rules", "defaults"] => [("POST", defaults)]
  | ["", "api", "occurrences", "preview"] => [("POST", preview)]
  | ["", "api", "occurrences", "calendar"] => [("POST", calendar)]
  | ["", "api", "nth-weekday"] => [("GET", nthWeekday)]
  | ["", "api", "rule-drafts"] => [("GET", listDrafts), ("POST", createDraft)]
  | ["", "api", "rule-drafts", id] => if id = "" then [] else [("GET", getDraft id)]
  | ["", "api", "rule-drafts", id, action] =>
    if id = "" then []
    else if action = "update" then [("POST", updateDraft id)]
    else if action = "type" then [("POST", switchDraft id)]
    else if action = "preview" then [("GET", previewDraft id)]
    else []
  | _ => []

/-- A path without one line feed at its end. -/
def withoutFinalLineFeed (path : String) : String :=
  match path.toList.reverse with
  | '\n' :: reversed => String.ofList reversed.reverse
  | _ => path

/-- A path without slashes at its end. -/
def withoutFinalSlashes (path : String) : String :=
  String.ofList (path.toList.reverse.dropWhile (· == '/')).reverse

/-- The endpoints at a path. A line feed at the end of a path that needs none does no harm. -/
def atPath (path : String) : List (String × Endpoint) :=
  match atWrittenPath path with
  | [] => atWrittenPath (withoutFinalLineFeed path)
  | found => found

/-- Why a request leads nowhere. -/
inductive Missing where
  /-- There is nothing at the path. -/
  | path
  /-- The path leads somewhere without the slashes at its end. -/
  | slashes
  /-- The path does not know the method. -/
  | method
deriving DecidableEq

/-- The endpoint of a method and a path. The method is in capital letters. -/
def find (method path : String) : Except Missing Endpoint :=
  match atPath path with
  | [] =>
    if path.toList.getLast? = some '/' ∧ path ≠ "/" ∧ atPath (withoutFinalSlashes path) ≠ [] then
      .error .slashes
    else .error .path
  | found => match found.lookup method with
    | some endpoint => .ok endpoint
    | none => .error .method

/-- Whether requests to an endpoint have a body. -/
def hasBody : Endpoint → Bool
  | validate | defaults | preview | calendar | createDraft | updateDraft _ | switchDraft _ => true
  | health | nthWeekday | listDrafts | getDraft _ | previewDraft _ => false

/-! ### Calls -/

/-- The number of a draft in a path. -/
def draftId (written : String) : Checked Int :=
  Reader.integer [.name "path", .name "draft_id"] (.text written)

/-- The parameters of a request as named parts. -/
def queryParts (parameters : List (Text × Text)) : Parts where
  place := [.name "query"]
  entries := parameters.reverse.map fun (name, content) => (name, .text content)
  whole := .null

/-- A count for a preview. -/
def previewCount (settings : Settings) : Reader Int :=
  .integerWithin 1 (some settings.maxPreviewCount)

/-- The call that a request to an endpoint makes, given its parameters and the document in its
body. -/
def call (settings : Settings) (query : Parts) (document : Option Value) :
    Endpoint → Checked Call
  | health => pure .health
  | validate => Call.validate <$> fromBody document ruleForm
  | defaults => fromBody document <| .form fun parts =>
    Call.defaults
      <$> field parts "recurrence_type" .text
      <*> optionalField parts "anchor_date" .date
  | preview => fromBody document <| .form fun parts =>
    Call.preview
      <$> field parts "rule" ruleForm
      <*> optionalField parts "max_count" (previewCount settings)
      <*> optionalField parts "hard_end_date" .date
  | calendar => fromBody document <| .form fun parts =>
    Call.calendar
      <$> field parts "rule" ruleForm
      <*> optionalField parts "year" (.integerWithin 1 (some 9999))
      <*> optionalField parts "month" (.integerWithin 1 (some 12))
      <*> optionalField parts "max_count" (previewCount settings)
  | nthWeekday =>
    Call.nthWeekday
      <$> field query "year" (.integerWithin 1 (some 9999))
      <*> field query "month" (.integerWithin 1 (some 12))
      <*> field query "ordinal" .text
      <*> field query "weekday" .integer
  | listDrafts => pure .listDrafts
  | createDraft => fromBody document <| .form fun parts =>
    Call.createDraft
      <$> field parts "name" (.textOfLength 1 255)
      <*> field parts "rule" ruleForm
  | getDraft id => Call.getDraft <$> draftId id
  | updateDraft id =>
    (fun id (expectedVersion, rule) => Call.updateDraft id expectedVersion rule)
      <$> draftId id
      <*> fromBody document (.form fun parts =>
        Prod.mk
          <$> field parts "expected_version" (.integerWithin 1 none)
          <*> field parts "rule" ruleForm)
  | switchDraft id =>
    (fun id (expectedVersion, kind, anchor) => Call.switchDraft id expectedVersion kind anchor)
      <$> draftId id
      <*> fromBody document (.form fun parts =>
        (fun expectedVersion kind anchor => (expectedVersion, kind, anchor))
          <$> field parts "expected_version" (.integerWithin 1 none)
          <*> field parts "recurrence_type" .text
          <*> optionalField parts "anchor_date" .date)
  | previewDraft id =>
    Call.previewDraft
      <$> draftId id
      <*> optionalField query "max_count" (previewCount settings)
      <*> optionalField query "hard_end_date" .date

end Endpoint

end Recurrence.Service
