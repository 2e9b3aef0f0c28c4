import ApprovalDesk.Health
import ApprovalDesk.Http.LinkParams
import ApprovalDesk.Http.Pages
import ApprovalDesk.Json.Reader
import ApprovalDesk.Workflow

/-!
# The router

Which request is answered how. The links approve with GET, show a form with GET and reject with POST;
they answer every failure with a page or a JSON object. The other paths answer in JSON. A handler of
GET serves HEAD as well, without the body.
-/

namespace ApprovalDesk.Http

set_option autoImplicit false

open ApprovalDesk.Text

/-- The places of the service. -/
inductive Route where
  | health
  | approval
  | rejection
  | submissions
  /-- A request by its id, as it stands in the path. -/
  | submission (segment : List Char)
  deriving DecidableEq, Repr

namespace Route

/-- The path below which the requests are found. -/
def submissionsPath : List Char := "/api/certifications".toList

/-- The route of a path. -/
def ofPath? (path : List Char) : Option Route :=
  if path = "/health".toList then some .health
  else if path = '/' :: ApprovalLinks.approveEndpoint.toList then some .approval
  else if path = '/' :: ApprovalLinks.rejectEndpoint.toList then some .rejection
  else if path = submissionsPath then some .submissions
  else if (submissionsPath ++ ['/']).isPrefixOf path then
    let segment := path.drop (submissionsPath.length + 1)
    if segment.isEmpty || segment.contains '/' then none else some (.submission segment)
  else none

/-- The methods of a route, as they are told to a caller that used another one. -/
def allow : Route → String
  | .health | .approval | .submission _ => "GET,HEAD"
  | .rejection => "GET,HEAD,POST"
  | .submissions => "POST"

end Route

/-- The refusal of a query. -/
def respondUnreadableQuery (name : String) : Response :=
  .text 400 ("Failed to deserialize query string: duplicate field `" ++ name ++ "`")

/-- The refusal of an id that is no text. -/
def respondUnreadableId : Response := .text 400 "Invalid URL: Invalid UTF-8 in `id`"

/-- What is said about a body that is no submission. -/
def submissionRequired : Failure := .invalid "Request body must be a JSON certification request"

/-- Reads the query of a link and goes on with the id of the request and the token. -/
def withLink (r : Request) (next : String → String → Flow Response) : Flow Response :=
  match LinkParams.ofPairs (FormPairs.decode r.query) with
  | .error name => return respondUnreadableQuery name
  | .ok params =>
    match params.require with
    | .error e => return respondFailure e r.format
    | .ok (id, token) => next id token

/-- Decides by a link. -/
def decide (ttl : Int) (format : Format) (id token : String) (decision : Decision) :
    Flow Response := do
  match ← (Workflow.process ttl id token decision).run with
  | .ok outcome => return respondOutcome id outcome format
  | .error e => return respondFailure e format

/-- Approves by a link. -/
def approve (ttl : Int) (r : Request) : Flow Response :=
  withLink r fun id token => decide ttl r.format id token .approve

/-- Shows the form that rejects; nothing changes yet. -/
def showRejectionForm (ttl : Int) (r : Request) : Flow Response :=
  withLink r fun id token => do
    match ← (Workflow.inspect ttl id token).run with
    | .ok (.pending request) => return .html 200 (RejectionForm.of request token).write
    | .ok (.alreadyProcessed status) => return respondAlreadyProcessed id status r.format
    | .error e => return respondFailure e r.format

/-- Rejects by a link. The reason is looked at before the token. -/
def reject (ttl : Int) (r : Request) : Flow Response :=
  withLink r fun id token =>
    match Decision.rejectFor (reasonOf r) with
    | .error e => return respondFailure e r.format
    | .ok decision => decide ttl r.format id token decision

/-- The submission in the body of a request. -/
def submissionOf? (r : Request) : Option Submission := do
  let contentType ← r.header? "content-type"
  let mediaType ← MediaType.read? contentType
  if !mediaType.isJson then failure
  let body ← r.readableBody?
  let node ← Json.readFirst (Utf8.units body)
  let value ← node.valueFor? Submission.fieldNames
  (Submission.decode value).toOption

/-- Takes in a request. -/
def submit (r : Request) : Flow Response :=
  match submissionOf? r with
  | none => return respondFailureJson submissionRequired
  | some data => do
    match ← (Workflow.submit data).run with
    | .ok request => return .json 201 request.toJson
    | .error e => return respondFailureJson e

/-- Shows a request on record. -/
def showRequest (segment : List Char) : Flow Response :=
  match Utf8.decode? (Percent.decode (Utf8.encodeChars segment)) with
  | none => return respondUnreadableId
  | some id => do
    match ← (Workflow.find id).run with
    | .ok request => return .json 200 request.toJson
    | .error e => return respondFailureJson e

/-- Says whether the service is healthy. -/
def showHealth : Flow Response := do
  let answer ← Flow.store .ping
  let health := Health.ofPing answer (← Flow.now)
  return .json (if health.isHealthy then 200 else 503) health.toJson

/-- The refusal of a method that a route does not have. -/
def refuseMethod (route : Route) (r : Request) : Response :=
  let response := match route with
    | .approval | .rejection => respondFailure .methodNotAllowed r.format
    | .health | .submissions | .submission _ => .bare 405
  { response with allow := some route.allow }

/-- Answers a request for GET. -/
def answerGet (ttl : Int) (r : Request) : Route → Flow Response
  | .health => showHealth
  | .approval => approve ttl r
  | .rejection => showRejectionForm ttl r
  | .submission segment => showRequest segment
  | .submissions => return refuseMethod .submissions r

/-- Answers a request for POST. -/
def answerPost (ttl : Int) (r : Request) : Route → Flow Response
  | .rejection => reject ttl r
  | .submissions => submit r
  | route => return refuseMethod route r

/-- Answers a request; `ttl` is how long tokens are valid, in milliseconds. -/
def handle (ttl : Int) (r : Request) : Flow Response :=
  match Route.ofPath? r.path with
  | none => return .bare 404
  | some route =>
    if r.method = "GET" then answerGet ttl r route
    else if r.method = "HEAD" then do return { ← answerGet ttl r route with body := "" }
    else if r.method = "POST" then answerPost ttl r route
    else return refuseMethod route r

end ApprovalDesk.Http
