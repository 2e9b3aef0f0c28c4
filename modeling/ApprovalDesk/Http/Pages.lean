import ApprovalDesk.Html
import ApprovalDesk.Http.Message
import ApprovalDesk.Links
import ApprovalDesk.Request.Json
import ApprovalDesk.Workflow

/-!
# Pages and JSON answers

What the holder of a link is answered: a page, or a JSON object for callers that prefer it.
-/

namespace ApprovalDesk.Http

set_option autoImplicit false

open ApprovalDesk.Text ApprovalDesk.Html

/-! ## The frame of the pages -/

def pageRules : List Line := [
  rule "body" ("font-family: -apple-system, BlinkMacSystemFont, \"Segoe UI\", Roboto, " ++
    "sans-serif; background: #f3f4f6; margin: 0; padding: 20px;"),
  rule ".container" ("max-width: 600px; margin: 40px auto; background: white; " ++
    "border-radius: 16px; box-shadow: 0 10px 30px rgba(0,0,0,0.1); overflow: hidden;"),
  rule ".header" "color: white; padding: 40px 30px; text-align: center;",
  rule ".success" "background: #10b981;",
  rule ".info" "background: #3b82f6;",
  rule ".warning" "background: #f59e0b;",
  rule ".error" "background: #ef4444;",
  rule ".content" "padding: 30px; color: #374151; line-height: 1.6;",
  rule "textarea" ("width: 100%; min-height: 140px; padding: 12px; " ++
    "border: 2px solid #e5e7eb; border-radius: 8px; font: inherit; box-sizing: border-box;"),
  rule ".button" ("background: #ef4444; color: white; border: none; padding: 14px 32px; " ++
    "border-radius: 8px; font-weight: bold; cursor: pointer;"),
  rule ".footer" ("text-align: center; color: #9ca3af; font-size: 12px; padding: 20px; " ++
    "border-top: 1px solid #e5e7eb;")]

/-- A page with a title and what stands in its container. -/
def page (title : Piece) (content : List Line) : List Line :=
  document "<html lang=\"en\">"
    [["  <meta name=\"viewport\" content=\"width=device-width, initial-scale=1.0\">"],
     ["  <title>", title, "</title>"]]
    pageRules
    (List.flatten [
      [["  <div class=\"container\">"],
       ["    "]],
      content,
      [[],
       ["    <div class=\"footer\">"],
       ["      <p>Spiritual certification system - Sinais</p>"],
       ["    </div>"],
       ["  </div>"]]])

/-! ## The page with a message -/

/-- The tone of a message. -/
inductive Tone where
  | success
  | warning
  | error
  deriving DecidableEq, Repr

/-- The name of a tone in the style sheet. -/
def Tone.name : Tone → String
  | .success => "success"
  | .warning => "warning"
  | .error => "error"

/-- A message with details. -/
structure Message where
  tone : Tone
  title : String
  message : String
  details : List String
  deriving DecidableEq, Repr

/-- The lines of the details. -/
def Message.items (m : Message) : List Line := List.flatten [
  [["  <ul>"],
   ["    "]],
  m.details.flatMap fun d => [["    <li>", .text d, "</li>"], ["    "]],
  [["  </ul>"]]]

def Message.content (m : Message) : List Line := List.flatten [
  [["<div class=\"header " ++ m.tone.name ++ "\">"],
   ["  <h1>", .text m.title, "</h1>"],
   ["</div>"],
   ["<div class=\"content\">"],
   ["  <p>", .text m.message, "</p>"]],
  linesIf (!m.details.isEmpty) ["  "] m.items,
  [["</div>"]]]

def Message.lines (m : Message) : List Line := page (.text m.title) m.content

/-- A message as an answer. -/
def Message.respond (m : Message) (status : Nat) : Response := .html status (write m.lines)

/-! ## The form that rejects a request -/

/-- What the form shows, and where it is sent. -/
structure RejectionForm where
  userName : String
  userEmail : String
  purchaseEmail : String
  action : String
  deriving DecidableEq, Repr

/-- The form for a request and its token. -/
def RejectionForm.of (r : ApprovalDesk.Request) (token : String) : RejectionForm where
  userName := r.displayName
  userEmail := r.userEmail
  purchaseEmail := r.purchaseEmail.getD Request.notProvided
  action :=
    ApprovalLinks.rejectEndpoint ++ "?" ++ String.ofList (FormPairs.encode (linkPairs r.id token))

def RejectionForm.content (f : RejectionForm) : List Line := [
  ["<div class=\"header error\">"],
  ["  <h1>Reject certification</h1>"],
  ["</div>"],
  ["<div class=\"content\">"],
  ["  <p><strong>User:</strong> ", .text f.userName, "</p>"],
  ["  <p><strong>Email:</strong> ", .text f.userEmail, "</p>"],
  ["  <p><strong>Purchase email:</strong> ", .text f.purchaseEmail, "</p>"],
  [],
  ["  <p><strong>Note:</strong> the user will be notified with the reason you give below.</p>"],
  [],
  ["  <form method=\"POST\" action=\"", .text f.action, "\">"],
  ["    <label for=\"rejectionReason\">Rejection reason *</label>"],
  ["    <textarea id=\"rejectionReason\" name=\"rejectionReason\" required"],
  ["      placeholder=\"Describe clearly and respectfully why the request is being " ++
    "rejected...\"></textarea>"],
  ["    <p style=\"font-size: 13px; color: #6b7280;\">"],
  ["      Be specific and constructive. If the user lacks spiritual formation, " ++
    "consider recommending the mentorship program."],
  ["    </p>"],
  ["    <p style=\"text-align: center;\">"],
  ["      <button type=\"submit\" class=\"button\">Confirm rejection</button>"],
  ["    </p>"],
  ["  </form>"],
  ["</div>"]]

def RejectionForm.lines (f : RejectionForm) : List Line := page "Reject certification" f.content

/-- The form as text. -/
def RejectionForm.write (f : RejectionForm) : String := Html.write f.lines

/-! ## Answers -/

/-- The JSON object of a failure. -/
def failureJson (e : Failure) : Json :=
  .obj [("error", .str e.code), ("message", .str e.publicMessage)]

/-- A failure as JSON. -/
def respondFailureJson (e : Failure) : Response := .json e.status (failureJson e)

/-- The page of a failure. -/
def failurePage (e : Failure) : Message := ⟨.error, e.title, e.publicMessage, []⟩

/-- A failure as the caller prefers it. -/
def respondFailure (e : Failure) : Format → Response
  | .json => respondFailureJson e
  | .html => (failurePage e).respond e.status

/-- What is said of a request that was decided before. -/
def alreadyProcessedText (status : Status) : String :=
  "This request was already " ++ status.name ++ " earlier."

/-- The page about a request that was decided before. -/
def alreadyProcessedPage (status : Status) : Message where
  tone := if status = .approved then .success else .warning
  title := "Request already processed"
  message := alreadyProcessedText status
  details := []

/-- The answer about a request that was decided before. -/
def respondAlreadyProcessed (requestId : String) (status : Status) : Format → Response
  | .json => .json 200 (.obj [
      ("message", .str (alreadyProcessedText status)),
      ("outcome", .str "already_processed"),
      ("requestId", .str requestId),
      ("status", status.toJson)])
  | .html => (alreadyProcessedPage status).respond 200

/-- The page after an approval. -/
def approvalPage (r : ApprovalDesk.Request) : Message where
  tone := .success
  title := "Certification approved"
  message := "The certification of " ++ r.displayName ++ " was approved."
  details := [
    "The user will receive a notification in the app",
    "A confirmation email will be sent to the user",
    "The certification badge will appear on the user's profile"]

/-- The page after a rejection. -/
def rejectionPage (r : ApprovalDesk.Request) : Message where
  tone := .warning
  title := "Certification rejected"
  message :=
    "The certification of " ++ r.displayName ++ " was rejected. Reason given: \"" ++
      r.rejectionReason.getD "" ++ "\""
  details := [
    "The user will receive an in-app notification with the reason",
    "An email explaining the decision will be sent to the user",
    "The user can submit a new request after addressing the points raised",
    "If the user needs deeper spiritual formation, " ++
      "consider recommending the mentorship program"]

/-- The answer after a decision. -/
def respondProcessed (r : ApprovalDesk.Request) : Format → Response
  | .json => .json 200 (.obj [
      ("outcome", .str "processed"),
      ("rejectionReason", optionJson .str r.rejectionReason),
      ("requestId", .str r.id),
      ("status", r.status.toJson)])
  | .html =>
    (if r.status = .approved then approvalPage r else rejectionPage r).respond 200

/-- The answer to a decision. -/
def respondOutcome (requestId : String) : Workflow.Outcome → Format → Response
  | .alreadyProcessed status, format => respondAlreadyProcessed requestId status format
  | .processed r, format => respondProcessed r format

end ApprovalDesk.Http
