import ApprovalDesk.Proofs.Html.Slots
import ApprovalDesk.Proofs.Http.Steps
import ApprovalDesk.Proofs.Json.RoundTrip

/-!
# What an answer reports

The holder of a link is told that the request has been processed, that it had been processed before, or
why it cannot be processed. Each of these is put into a JSON object or into a page. Whoever parses the
object finds the members that belong to the report; whoever reads the page finds its title and its
message, escaped.
-/

namespace ApprovalDesk.Http

set_option autoImplicit false

open ApprovalDesk.Text

/-- What the holder of a link is told. -/
inductive Report where
  | processed (request : ApprovalDesk.Request)
  | alreadyProcessed (id : String) (status : Status)
  | failure (e : Failure)

namespace Report

def status : Report → Nat
  | .processed _ | .alreadyProcessed _ _ => 200
  | .failure e => e.status

/-- How a failure is told: the code for programs, the heading and the message for readers. -/
structure Wording where
  code : String
  title : String
  message : String

/-- The wording of a failure. No fault of a link or of the store is named. -/
def wording : Failure → Wording
  | .invalid detail => ⟨"validation_error", "Invalid request", detail⟩
  | .forbidden => ⟨"invalid_token", "Invalid or expired link",
    "This link is no longer valid. It may have expired or already been used. " ++
      "Please process the request from the admin panel."⟩
  | .notFound detail => ⟨"not_found", "Request not found", detail⟩
  | .methodNotAllowed => ⟨"method_not_allowed", "Method not allowed",
    "This endpoint only accepts GET and POST requests."⟩
  | .conflict detail => ⟨"conflict", "Conflict", detail⟩
  | .storage _ | .internal => ⟨"internal_error", "Something went wrong",
    "We could not process the request. Please try again in a moment."⟩

theorem wording_eq (e : Failure) : wording e = ⟨e.code, e.title, e.publicMessage⟩ := by
  cases e <;> rfl

/-- The heading over the report. -/
def title : Report → String
  | .processed r =>
    if r.status = .approved then "Certification approved" else "Certification rejected"
  | .alreadyProcessed _ _ => "Request already processed"
  | .failure e => (wording e).title

/-- What is said of a request that has the status already. -/
def alreadyMessage : Status → String
  | .pending => "This request was already pending earlier."
  | .approved => "This request was already approved earlier."
  | .rejected => "This request was already rejected earlier."

/-- The report in a sentence or two. -/
def message : Report → String
  | .processed r =>
    if r.status = .approved then "The certification of " ++ r.displayName ++ " was approved."
    else
      "The certification of " ++ r.displayName ++ " was rejected. Reason given: \"" ++
        r.rejectionReason.getD "" ++ "\""
  | .alreadyProcessed _ status => alreadyMessage status
  | .failure e => (wording e).message

/-- The members of the object. -/
def members : Report → List (String × Json)
  | .processed r => [
      ("outcome", .str "processed"),
      ("rejectionReason", optionJson .str r.rejectionReason),
      ("requestId", .str r.id),
      ("status", .str r.status.name)]
  | .alreadyProcessed id status => [
      ("message", .str (alreadyMessage status)),
      ("outcome", .str "already_processed"),
      ("requestId", .str id),
      ("status", .str status.name)]
  | .failure e => [("error", .str (wording e).code), ("message", .str (wording e).message)]

/-- What stands on the page. -/
def page : Report → Message
  | .processed r => if r.status = .approved then approvalPage r else rejectionPage r
  | .alreadyProcessed _ status => alreadyProcessedPage status
  | .failure e => failurePage e

theorem alreadyMessage_eq (status : Status) : alreadyMessage status = alreadyProcessedText status := by
  cases status <;> decide

theorem page_title (report : Report) : report.page.title = report.title := by
  cases report with
  | processed r => exact apply_ite Message.title _ (approvalPage r) (rejectionPage r)
  | alreadyProcessed => rfl
  | failure e => exact congrArg Wording.title (wording_eq e).symm

theorem page_message (report : Report) : report.page.message = report.message := by
  cases report with
  | processed r => exact apply_ite Message.message _ (approvalPage r) (rejectionPage r)
  | alreadyProcessed id status => exact (alreadyMessage_eq status).symm
  | failure e => exact congrArg Wording.message (wording_eq e).symm

/-- The report as the caller prefers it. -/
def respond (report : Report) : Format → Response
  | .json => .json report.status (.obj report.members)
  | .html => report.page.respond report.status

theorem numberless_members (report : Report) : Json.numberless (.obj report.members) = true := by
  cases report with
  | processed r => cases reason : r.rejectionReason <;> simp [members, optionJson, reason,
      Json.numberless, Json.numberlessMembers]
  | alreadyProcessed | failure => rfl

end Report

/-! ## Reading an answer -/

/-- The answer is a JSON object with the members of the report. -/
structure Response.TellsJson (answer : Response) (report : Report) : Prop where
  status : answer.status = report.status
  contentType : answer.contentType = some "application/json"
  body : Json.parse? answer.body = some (.obj report.members)

/-- The answer is the page of the report, with its title as the heading and its message as a paragraph. -/
structure Response.TellsPage (answer : Response) (report : Report) : Prop where
  status : answer.status = report.status
  contentType : answer.contentType = some "text/html; charset=utf-8"
  body : answer.body = Html.write report.page.lines
  title : Html.element "h1" report.title <:+: answer.body.toList
  message : Html.element "p" report.message <:+: answer.body.toList

/-- The answer tells of the report in the form that the caller prefers. -/
def Response.Tells (answer : Response) (report : Report) : Format → Prop
  | .json => answer.TellsJson report
  | .html => answer.TellsPage report

/-- The title of a page is its heading, and its message is a paragraph. -/
theorem Message.infix_write (m : Message) :
    Html.element "h1" m.title <:+: (Html.write m.lines).toList ∧
      Html.element "p" m.message <:+: (Html.write m.lines).toList := by
  have title : (["  <h1>", .text m.title, "</h1>"] : Html.Line) ∈ m.lines := by
    simp [Message.lines, page, Html.document, Message.content]
  have message : (["  <p>", .text m.message, "</p>"] : Html.Line) ∈ m.lines := by
    simp [Message.lines, page, Html.document, Message.content]
  rw [Html.write, String.toList_ofList]
  exact ⟨Html.infix_element title, Html.infix_element message⟩

/-- **A report is read from the answer that gives it.** -/
theorem Report.tells_respond (report : Report) (format : Format) :
    (report.respond format).Tells report format := by
  cases format with
  | json => exact ⟨rfl, rfl, Json.parse?_write report.numberless_members⟩
  | html =>
    obtain ⟨title, message⟩ := report.page.infix_write
    rw [report.page_title] at title
    rw [report.page_message] at message
    exact ⟨rfl, rfl, rfl, title, message⟩

/-- To say which methods are allowed does not take anything away from an answer. -/
theorem Response.Tells.allow {answer : Response} {report : Report} {format : Format}
    (tells : answer.Tells report format) (allow : Option String) :
    Response.Tells { answer with allow } report format := by
  cases format with
  | json => exact ⟨tells.status, tells.contentType, tells.body⟩
  | html => exact ⟨tells.status, tells.contentType, tells.body, tells.title, tells.message⟩

@[simp] theorem Report.respond_status (report : Report) (format : Format) :
    (report.respond format).status = report.status := by
  cases format <;> rfl

/-! ## Answers that report -/

theorem respondFailure_eq_respond (e : Failure) (format : Format) :
    respondFailure e format = (Report.failure e).respond format := by
  cases format with
  | json =>
    rw [Report.respond, Report.members, Report.wording_eq]
    rfl
  | html => rfl

theorem respondAlreadyProcessed_eq_respond (id : String) (status : Status) (format : Format) :
    respondAlreadyProcessed id status format = (Report.alreadyProcessed id status).respond format := by
  cases format with
  | json =>
    rw [respondAlreadyProcessed, ← Report.alreadyMessage_eq]
    rfl
  | html => rfl

/-- What came of a decision. -/
def Report.ofDecision (id : String) : Except Failure Workflow.Outcome → Report
  | .ok (.processed r) => .processed r
  | .ok (.alreadyProcessed status) => .alreadyProcessed id status
  | .error e => .failure e

theorem respondDecision_eq_respond (id : String) (format : Format)
    (result : Except Failure Workflow.Outcome) :
    respondDecision id format result = (Report.ofDecision id result).respond format := by
  rcases result with e | r | status
  · exact respondFailure_eq_respond e format
  · cases format <;> rfl
  · exact respondAlreadyProcessed_eq_respond id status format

end ApprovalDesk.Http
