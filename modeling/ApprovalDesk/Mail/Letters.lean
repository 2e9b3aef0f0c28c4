import ApprovalDesk.Html
import ApprovalDesk.Links
import ApprovalDesk.Mail.Letter
import ApprovalDesk.Request
import ApprovalDesk.Settings
import ApprovalDesk.Time.Timestamp

/-!
# The letters of the workflow

The administrator is asked to decide on a new request and later told what was done; the user is told
the decision. Only the letter with the links holds the token.
-/

namespace ApprovalDesk.Letter

set_option autoImplicit false

open ApprovalDesk.Text Html

/-- A value as it is shown, with a stand-in for one that is missing or blank. -/
def shown (value : Option String) : String :=
  match value with
  | some v => if isBlankText v then Request.notProvided else v
  | none => Request.notProvided

/-- How the body of every letter is set. -/
def bodyRule : Line :=
  rule "body" ("font-family: Arial, sans-serif; line-height: 1.6; color: #333; max-width: 600px; " ++
    "margin: 0 auto; padding: 20px;")

/-- How the footer of every letter is set. -/
def footerRule : Line :=
  rule ".footer" "text-align: center; color: #666; font-size: 12px; margin-top: 30px;"

/-- How the box with the content of a letter is set. -/
def contentRule : Line :=
  rule ".content" "background: #f9f9f9; padding: 30px; border-radius: 0 0 10px 10px;"

/-- The year of a letter. -/
def yearText (year : Int) : String := Decimal.intText year

/-! ## A new request -/

/-- What the letter about a new request shows. -/
structure NewRequest where
  userName : String
  userEmail : String
  purchaseEmail : String
  submittedAt : String
  requestId : String
  proofHref : String
  approveHref : String
  rejectHref : String
  ttlDays : String
  year : String

def NewRequest.rules : List Line := [
  bodyRule,
  rule ".header" ("background: #667eea; color: white; padding: 30px; " ++
    "border-radius: 10px 10px 0 0; text-align: center;"),
  contentRule,
  rule ".label" "font-weight: bold; color: #555; margin-top: 10px;",
  rule ".button" ("display: inline-block; color: white; padding: 14px 36px; " ++
    "text-decoration: none; border-radius: 8px; font-weight: bold; margin: 8px;"),
  rule ".approve" "background: #10b981;",
  rule ".reject" "background: #ef4444;",
  rule ".proof" "background: #667eea;",
  footerRule]

/-- A value of the request under its label. -/
def NewRequest.entry (label value : String) : List Line := [
  ["    <div class=\"label\">" ++ label ++ "</div>"],
  ["    <div>", .text value, "</div>"],
  []]

/-- The links of the letter and how long they are valid. -/
def NewRequest.links (l : NewRequest) : List Line := [
  ["    <p style=\"text-align: center;\">"],
  ["      <a href=\"", .text l.proofHref,
    "\" class=\"button proof\" target=\"_blank\">View proof of purchase</a>"],
  ["    </p>"],
  [],
  ["    <p style=\"text-align: center;\">" ++
    "You can approve or reject this request directly from this email:</p>"],
  ["    <p style=\"text-align: center;\">"],
  ["      <a href=\"", .text l.approveHref,
    "\" class=\"button approve\">Approve certification</a>"],
  ["      <a href=\"", .text l.rejectHref, "\" class=\"button reject\">Reject certification</a>"],
  ["    </p>"],
  ["    <p style=\"text-align: center; font-size: 12px; color: #999;\">"],
  ["      These links are valid for ", .text l.ttlDays, " days and can be used only once."],
  ["    </p>"]]

def NewRequest.body (l : NewRequest) : List Line := List.flatten [
  [["  <div class=\"header\">"],
   ["    <h1>New certification request</h1>"],
   ["    <p>A new spiritual certification request was received</p>"],
   ["  </div>"],
   [],
   ["  <div class=\"content\">"]],
  entry "User name" l.userName,
  entry "User email" l.userEmail,
  entry "Purchase email" l.purchaseEmail,
  entry "Submitted at" l.submittedAt,
  entry "Request ID" l.requestId,
  l.links,
  [["  </div>"],
   [],
   ["  <div class=\"footer\">"],
   ["    <p>This is an automated message.</p>"],
   ["    <p>&copy; ", .text l.year, " Sinais</p>"],
   ["  </div>"]]]

def NewRequest.lines (l : NewRequest) : List Line := document "<html>" [] rules l.body

/-- The letter that asks the administrator to decide on a new request. -/
def newRequest (s : Settings) (r : Request) (token : String) (year : Int) :
    Except MailError Letter :=
  match ApprovalLinks.make s.publicBaseUrl r.id token with
  | .error e => .error (.link e)
  | .ok links => .ok {
      sender := s.senderAddress
      recipient := s.adminRecipient
      subject := "New spiritual certification request"
      html := write (NewRequest.lines {
        userName := r.displayName
        userEmail := shown (some r.userEmail)
        purchaseEmail := shown r.purchaseEmail
        submittedAt := Time.Timestamp.writeForMail r.createdAt
        requestId := r.id
        proofHref := safeHref r.proofFileUrl
        approveHref := links.approve.write
        rejectHref := links.reject.write
        ttlDays := Decimal.intText s.ttlDays
        year := yearText year }) }

/-! ## The decision, for the user -/

/-- What the letter about a decision shows. -/
structure UserDecision where
  approved : Bool
  userName : String
  reason : String
  year : String

def UserDecision.rules : List Line := [
  bodyRule,
  rule ".header" ("color: white; padding: 40px; border-radius: 10px 10px 0 0; " ++
    "text-align: center;"),
  rule ".approved" "background: #11998e;",
  rule ".rejected" "background: #f5576c;",
  contentRule,
  rule ".reason" ("background: white; padding: 20px; border-radius: 8px; margin: 20px 0; " ++
    "border-left: 4px solid #f5576c;"),
  footerRule]

def UserDecision.approval (l : UserDecision) : List Line := [
  ["  <div class=\"header approved\">"],
  ["    <h1>Congratulations, ", .text l.userName, "!</h1>"],
  ["    <p>Your spiritual certification was approved</p>"],
  ["  </div>"],
  ["  <div class=\"content\">"],
  ["    <p>Your request was reviewed and approved.</p>"],
  ["    <p>Your profile now shows the spiritual certification badge.</p>"],
  ["  </div>"]]

def UserDecision.rejection (l : UserDecision) : List Line := List.flatten [
  [["  <div class=\"header rejected\">"],
   ["    <h1>Review needed</h1>"],
   ["    <p>Your certification request needs attention</p>"],
   ["  </div>"],
   ["  <div class=\"content\">"],
   ["    <p>Hello, ", .text l.userName, "</p>"],
   ["    <p>Your spiritual certification request was reviewed and needs some adjustments.</p>"]],
  linesIf (!l.reason.isEmpty) ["    "]
    [["    <div class=\"reason\">"],
     ["      <strong>Reason:</strong><br>"],
     ["      ", .text l.reason],
     ["    </div>"]],
  [["    <p>Please get in touch with us or send a new request with the needed corrections.</p>"],
   ["  </div>"]]]

def UserDecision.body (l : UserDecision) : List Line := List.flatten [
  [[]],
  if l.approved then l.approval else l.rejection,
  [[],
   ["  <div class=\"footer\">"],
   ["    <p>&copy; ", .text l.year, " Sinais</p>"],
   ["  </div>"]]]

def UserDecision.lines (l : UserDecision) : List Line := document "<html>" [] rules l.body

/-- The letter that tells the user the decision; there is none about a pending request. -/
def userDecision (s : Settings) (r : Request) (year : Int) : Option Letter :=
  if r.isPending then none
  else
    let approved := r.status == .approved
    some {
      sender := s.senderAddress
      recipient := r.userEmail
      subject :=
        if approved then "Your spiritual certification was approved!"
        else "Spiritual certification: review needed"
      html := write (UserDecision.lines {
        approved
        userName := r.displayName
        reason := r.rejectionReason.getD ""
        year := yearText year }) }

/-! ## The decision, for the administrator -/

/-- What the confirmation of a decision shows. -/
structure AdminConfirmation where
  approved : Bool
  userName : String
  userEmail : String
  processedBy : String
  method : String
  reason : String
  consoleHref : String
  year : String

def AdminConfirmation.rules : List Line := [
  bodyRule,
  rule ".header" ("color: white; padding: 30px; border-radius: 10px 10px 0 0; " ++
    "text-align: center;"),
  rule ".approved" "background: #10b981;",
  rule ".rejected" "background: #f59e0b;",
  contentRule,
  rule ".row" "margin: 8px 0;",
  rule ".label" "font-weight: bold; color: #555;",
  footerRule]

/-- A row of the confirmation. -/
def AdminConfirmation.row (label : String) (value : Piece) : Line :=
  ["    <div class=\"row\"><span class=\"label\">" ++ label ++ ":</span> ", value, "</div>"]

def AdminConfirmation.body (l : AdminConfirmation) : List Line :=
  let outcome := if l.approved then "approved" else "rejected"
  List.flatten [
  [["  <div class=\"header " ++ outcome ++ "\">"],
   ["    <h1>Certification " ++ outcome ++ "</h1>"],
   ["    <p>Processing confirmation</p>"],
   ["  </div>"],
   [],
   ["  <div class=\"content\">"],
   ["    <p>A certification request was processed:</p>"],
   [],
   row "User" (.text l.userName),
   row "Email" (.text l.userEmail),
   row "Status" (if l.approved then "Approved" else "Rejected"),
   row "Processed by" (.text l.processedBy),
   row "Method" (.text l.method)],
  linesIf (!l.approved && !l.reason.isEmpty) ["    "]
    [["    <div class=\"row\"><span class=\"label\">Rejection reason:</span> <em>\"",
      .text l.reason, "\"</em></div>"]],
  [[],
   ["    <p><strong>Actions performed:</strong></p>"],
   ["    <ul>"],
   ["      <li>In-app notification created for the user</li>"],
   ["      " ++ if l.approved then "<li>Certification badge added to the profile</li>" else ""],
   ["      <li>" ++ (if l.approved then "Approval" else "Rejection") ++
    " email sent to the user</li>"],
   ["      <li>Audit log entry recorded</li>"],
   ["    </ul>"],
   []],
  linesIf (!l.consoleHref.isEmpty) ["    "]
    [["    <p style=\"text-align: center;\">"],
     ["      <a href=\"", .text l.consoleHref,
      "\" style=\"display: inline-block; background: #667eea; color: white; " ++
      "padding: 12px 24px; text-decoration: none; border-radius: 8px;\">" ++
      "Open in the admin console</a>"],
     ["    </p>"]],
  [["  </div>"],
   [],
   ["  <div class=\"footer\">"],
   ["    <p>Spiritual certification system - Sinais</p>"],
   ["    <p>&copy; ", .text l.year, "</p>"],
   ["  </div>"]]]

def AdminConfirmation.lines (l : AdminConfirmation) : List Line :=
  document "<html>" [["  <title>Processing confirmation</title>"]] rules l.body

/-- The letter that confirms a decision to the administrator; there is none about a pending
request. -/
def adminConfirmation (s : Settings) (r : Request) (year : Int) : Option Letter :=
  if r.isPending then none
  else
    let approved := r.status == .approved
    some {
      sender := s.senderAddress
      recipient := s.adminRecipient
      subject :=
        if approved then "Certification approved - confirmation"
        else "Certification rejected - confirmation"
      html := write (AdminConfirmation.lines {
        approved
        userName := r.displayName
        userEmail := r.userEmail
        processedBy := shown r.processedBy
        method := r.processedVia.elim "unknown" Channel.describe
        reason := r.rejectionReason.getD ""
        consoleHref := (s.consoleLink r.id).getD ""
        year := yearText year }) }

end ApprovalDesk.Letter
