/-
**Responses to requests.**

`respond` takes a request from its target and method over its parts to the answer of the call that
it makes. A request that leads nowhere, has a body that cannot be read, or has parts that are
refused changes nothing and leaves no log lines. A response in JSON that cannot be written breaks
off, and the response to `HEAD` has no content.
-/
import Recurrence.Json.Writer
import Recurrence.Service.Answer

namespace Recurrence.Service

/-- What a response carries. -/
inductive Content where
  | document (content : Value)
  | text (content : String)
  | refusedParts (errors : List FieldError)

/-- Whether a content can be written. Refused parts show what was given. -/
def Content.isProper : Content → Bool
  | document content => Json.isProper content
  | text _ => true
  | refusedParts errors => errors.all fun error => Json.isProper error.given

/-- A response, with what was logged while it was made. A response is not finished when its call
broke off. -/
structure Response where
  status : Nat
  content : Content
  log : List LogEntry
  finished : Bool

/-- A call that broke off. -/
def Response.brokenOff (log : List LogEntry) : Response :=
  ⟨500, .text "Internal Server Error", log, false⟩

/-- A response with a content. -/
def Response.of (status : Nat) (content : Content) (log : List LogEntry) : Response :=
  if content.isProper then ⟨status, content, log, true⟩ else .brokenOff log

/-- A response with a detail. -/
def detailed (status : Nat) (detail : Value) (log : List LogEntry) : Response :=
  .of status (.document (.object [("detail", detail)])) log

/-- The response to the answer of a call. -/
def Response.ofAnswer (answer : Except Failure Success) (log : List LogEntry) : Response :=
  match answer with
  | .ok success => .of success.status (.document success.document) log
  | .error (.refused status detail) => detailed status detail log
  | .error (.broken _) => .brokenOff log

/-- The response to a request that leads nowhere. -/
def Response.ofMissing : Endpoint.Missing → Response
  | .path => detailed 404 (.text "Not Found") []
  | .slashes => .of 307 (.text "") []
  | .method => detailed 405 (.text "Method Not Allowed") []

/-- The response to a request to an endpoint, and the rows afterwards. -/
def respondAt (settings : Settings) (today : Date) (rows : List Record) (endpoint : Endpoint)
    (parameters : List (Text × Text)) (body : Body) : Response × List Record :=
  match (if endpoint.hasBody then body else .absent).read with
  | .error .notJson => (.of 422 (.refusedParts [⟨[.name "body"], .jsonInvalid, .null⟩]) [], rows)
  | .error .unreadable => (detailed 400 (.text "There was an error parsing the body") [], rows)
  | .ok document =>
    match endpoint.call settings (Endpoint.queryParts parameters) document with
    | .refused errors => (.of 422 (.refusedParts errors) [], rows)
    | .accepted call =>
      let (answer, progress) := call.answer settings today rows
      (.ofAnswer answer progress.log, progress.store.rows)

/-- The response to a request, and the rows afterwards. The case of the letters of a method does not
matter. -/
def respond (settings : Settings) (today : Date) (rows : List Record) (request : Request) :
    Response × List Record :=
  let target := Target.ofWritten request.target
  let method := String.ofList (request.method.toList.flatMap Text.capitals)
  let (response, rows) := match Endpoint.find method target.path with
    | .error missing => (Response.ofMissing missing, rows)
    | .ok endpoint =>
      let parameters := request.parameters.getD target.parameters
      respondAt settings today rows endpoint parameters request.body
  (if method = "HEAD" then { response with content := .text "" } else response, rows)

/-- The responses to requests, one after the other, and the rows afterwards. -/
def respondAll (settings : Settings) (today : Date) (rows : List Record) :
    List Request → List Response × List Record
  | [] => ([], rows)
  | request :: requests =>
    let (response, rows) := respond settings today rows request
    let (responses, rows) := respondAll settings today rows requests
    (response :: responses, rows)

end Recurrence.Service
