import ApprovalDesk.Request

/-!
# Events

What the workflow announces once it is done: a new request with the token in its links, and a change
of status. Only a decision about a pending request has consequences.
-/

namespace ApprovalDesk

set_option autoImplicit false

/-- A change of status: what it was before, and the record after it. -/
structure StatusChange where
  before : Status
  after : Request
  deriving DecidableEq, Repr

/-- A pending request has been decided. -/
def StatusChange.isDecision (c : StatusChange) : Bool :=
  c.before == .pending && c.after.status.isTerminal

/-- What the workflow announces. -/
inductive Event where
  | submitted (request : Request) (token : String)
  | statusChanged (change : StatusChange)
  deriving DecidableEq, Repr

end ApprovalDesk
