import ApprovalDesk.Failure
import ApprovalDesk.Text.Blank
import ApprovalDesk.Time.Instant

/-!
# Certification requests and decisions

A request is pending until an administrator approves or rejects it; both decisions are final. The
record keeps who decided, when, and over which channel.
-/

namespace ApprovalDesk

set_option autoImplicit false

open ApprovalDesk.Text ApprovalDesk.Time

/-- Where a request stands. -/
inductive Status where
  | pending
  | approved
  | rejected
  deriving DecidableEq, Repr

/-- The name of a status. -/
def Status.name : Status → String
  | .pending => "pending"
  | .approved => "approved"
  | .rejected => "rejected"

/-- A status that is never left. -/
def Status.isTerminal : Status → Bool
  | .pending => false
  | .approved | .rejected => true

/-- How a decision reached the desk. -/
inductive Channel where
  | email
  | panel
  deriving DecidableEq, Repr

/-- The name of a channel. -/
def Channel.name : Channel → String
  | .email => "email"
  | .panel => "panel"

/-- A channel as it is told to the administrator. -/
def Channel.describe : Channel → String
  | .email => "via the email link"
  | .panel => "via the admin panel"

/-- What a user submits. -/
structure Submission where
  userId : String
  userName : String
  userEmail : String
  purchaseEmail : Option String
  proofFileUrl : Option String
  deriving DecidableEq, Repr

/-- A certification request on record. -/
structure Request where
  id : String
  userId : String
  userName : String
  userEmail : String
  purchaseEmail : Option String
  proofFileUrl : Option String
  status : Status
  createdAt : Instant
  approvedAt : Option Instant
  rejectedAt : Option Instant
  processedAt : Option Instant
  rejectionReason : Option String
  processedVia : Option Channel
  approvedBy : Option String
  rejectedBy : Option String
  deriving DecidableEq, Repr

/-- What the administrator decides about a pending request. -/
inductive Decision where
  | approve
  | reject (reason : String)
  deriving DecidableEq, Repr

/-- The refusal of a rejection that gives no reason. -/
def Failure.reasonRequired : Failure :=
  .invalid "A reason is required to reject a certification request"

namespace Decision

/-- A rejection for the trimmed reason; a blank reason is refused. -/
def rejectFor (reason : String) : Except Failure Decision :=
  let reason := trim reason
  if reason.isEmpty then .error .reasonRequired else .ok (.reject reason)

/-- The status that a decision leads to. -/
def target : Decision → Status
  | .approve => .approved
  | .reject _ => .rejected

end Decision

/-- Who decides, and over which channel. -/
structure Actor where
  name : String
  via : Channel
  deriving DecidableEq, Repr

namespace Actor

/-- Whoever holds the link from the administrator's mail. -/
def emailLink : Actor := ⟨"email_link", .email⟩

/-- An administrator in the panel. -/
def panel (adminId : String) : Actor := ⟨adminId, .panel⟩

end Actor

namespace Request

/-- A new pending request. -/
def new (id : String) (data : Submission) (now : Instant) : Request where
  id := id
  userId := data.userId
  userName := data.userName
  userEmail := data.userEmail
  purchaseEmail := data.purchaseEmail
  proofFileUrl := data.proofFileUrl
  status := .pending
  createdAt := now
  approvedAt := none
  rejectedAt := none
  processedAt := none
  rejectionReason := none
  processedVia := none
  approvedBy := none
  rejectedBy := none

/-- A request that still waits for a decision. -/
def isPending (r : Request) : Bool := r.status == .pending

/-- The record after a decision; what the decision does not name is left as it was. -/
def decided (r : Request) (decision : Decision) (actor : Actor) (now : Instant) : Request :=
  let r := { r with
    status := decision.target
    processedAt := some now
    processedVia := some actor.via }
  match decision with
  | .approve => { r with approvedAt := some now, approvedBy := some actor.name }
  | .reject reason =>
    { r with
      rejectedAt := some now
      rejectedBy := some actor.name
      rejectionReason := some reason }

/-- Decides a pending request; a request that has been decided is refused with its status. -/
def transition (r : Request) (decision : Decision) (actor : Actor) (now : Instant) :
    Except Status Request :=
  if r.status.isTerminal then .error r.status else .ok (r.decided decision actor now)

/-- The refusal of a decision about a request that has been decided. -/
def alreadyDecidedMessage (status : Status) : String :=
  "certification request already " ++ status.name

/-- Who moved the request out of `pending`. -/
def processedBy (r : Request) : Option String :=
  match r.status with
  | .pending => none
  | .approved => r.approvedBy
  | .rejected => r.rejectedBy

/-- What stands for a value that was not given. -/
def notProvided : String := "Not provided"

/-- The name of the user as it is shown. -/
def displayName (r : Request) : String :=
  if isBlankText r.userName then notProvided else r.userName

@[simp] theorem new_status (id : String) (data : Submission) (now : Instant) :
    (new id data now).status = .pending := rfl

@[simp] theorem decided_status (r : Request) (d : Decision) (a : Actor) (now : Instant) :
    (r.decided d a now).status = d.target := by
  cases d <;> rfl

@[simp] theorem decided_id (r : Request) (d : Decision) (a : Actor) (now : Instant) :
    (r.decided d a now).id = r.id := by
  cases d <;> rfl

/-- Exactly the pending requests can be decided. -/
theorem transition_eq_ok_iff {r s : Request} {d : Decision} {a : Actor} {now : Instant} :
    r.transition d a now = .ok s ↔ r.status = .pending ∧ s = r.decided d a now := by
  unfold transition
  cases h : r.status <;> simp [Status.isTerminal, eq_comm]

end Request

end ApprovalDesk
