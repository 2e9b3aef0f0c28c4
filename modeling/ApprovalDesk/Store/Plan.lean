import ApprovalDesk.Request
import ApprovalDesk.Token

/-!
# Planning a decision

What becomes of a decision is settled by the records of the request and of its token, read together:
first whether there is a request, then whether it has been decided before, and last, if the decision
comes with a token, whether that token is valid.
-/

namespace ApprovalDesk

set_option autoImplicit false

open ApprovalDesk.Time

/-- Why a decision is not carried out. -/
inductive Refusal where
  | notFound
  /-- The request was decided before. -/
  | alreadyProcessed (status : Status)
  | tokenRejected (verdict : Verdict)
  deriving DecidableEq, Repr

/-- What became of a decision. -/
inductive CommitOutcome where
  | committed (before : Status) (after : Request)
  | refused (cause : Refusal)
  deriving DecidableEq, Repr

/-- The verdict about the string that comes with a decision; one without a string needs no token. -/
def guardVerdict (token : Option Token) (guard : Option Guard) (now : Instant) :
    Except Crash Verdict :=
  match guard with
  | none => .ok .valid
  | some g =>
    match token with
    | none => .ok .missing
    | some t => t.check g.supplied g.ttl now

/-- The record after a decision, or why it is not carried out. -/
def plan (request : Option Request) (token : Option Token) (decision : Decision) (actor : Actor)
    (guard : Option Guard) (now : Instant) : Except Crash (Except Refusal Request) :=
  match request with
  | none => .ok (.error .notFound)
  | some r =>
    if r.status.isTerminal then .ok (.error (.alreadyProcessed r.status))
    else
      (guardVerdict token guard now).map fun verdict =>
        if verdict.isValid then (r.transition decision actor now).mapError .alreadyProcessed
        else .error (.tokenRejected verdict)

end ApprovalDesk
