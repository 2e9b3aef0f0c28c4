import ApprovalDesk.Flow

/-!
# The workflow

A user submits a request and a token is issued with it. Whoever holds the token may look at the
request and decide about it once; an administrator may decide in the panel without it. Whatever is
wrong with a token, its holder is told no more than that it is not valid, unless the string was right
and the request has been decided.
-/

namespace ApprovalDesk.Workflow

set_option autoImplicit false

open ApprovalDesk.Text ApprovalDesk.Time

/-- What a decision came to. -/
inductive Outcome where
  | processed (request : Request)
  /-- The request was decided before; nothing changed. -/
  | alreadyProcessed (status : Status)
  deriving DecidableEq, Repr

/-- What the holder of a token finds. -/
inductive Inspection where
  | pending (request : Request)
  | alreadyProcessed (status : Status)
  deriving DecidableEq, Repr

/-- There is no such request. -/
def requestNotFound : Failure := .notFound "The certification request was not found."

/-! ## Tokens -/

/-- A fresh secret for a request. -/
def newSecret (requestId : String) : Attempt String := do
  match ← Flow.newSecret with
  | none => throw .internal
  | some random => return Token.secretFor requestId random (← Flow.now)

/-- A fresh token for a request, not yet stored. -/
def mint (requestId : String) : Attempt Token := do
  let secret ← newSecret requestId
  return Token.new requestId secret (← Flow.now)

/-- Issues the token of a request, unless it has one. -/
def issue (requestId : String) : Attempt String := do
  let token ← mint requestId
  if ← Attempt.store (.insertToken token) then return token.secret
  else throw (.conflict ("An approval token already exists for request " ++ requestId))

/-- Checks a supplied string; a store that fails is a verdict of its own. -/
def check (ttl : Int) (requestId supplied : String) : Flow Verdict := do
  match ← Flow.store (.findToken requestId) with
  | .ok (some token) =>
    let now ← Flow.now
    Dialogue.ofExcept (token.check supplied ttl now)
  | .ok none => return .missing
  | .error _ => return .unavailable

/-- Whether a supplied string is valid. -/
def validate (ttl : Int) (requestId supplied : String) : Flow Bool :=
  return (← check ttl requestId supplied).isValid

/-- Marks the token of a request as used, and tells whether there was an unused one. -/
def markUsed (requestId : String) : Flow (Except StoreError Bool) := do
  let now ← Flow.now
  Flow.store (.markTokenUsed requestId now)

/-! ## Requests -/

/-- What has to be given in a submission. -/
def validateSubmission (data : Submission) : Except Failure Unit :=
  if isBlankText data.userId then .error (.invalid "userId is required")
  else if isBlankText data.userEmail then .error (.invalid "userEmail is required")
  else .ok ()

/-- What the caller is told when a submission could not be stored. -/
def submissionFailure : StoreError → Failure
  | .duplicate id => .conflict ("Request " ++ id ++ " already exists")
  | e => .storage e

/-- Takes in a request and issues its token; both are stored or neither. -/
def submit (data : Submission) : Attempt Request := do
  liftExcept (validateSubmission data)
  let id ← Flow.newId
  let request := Request.new id.write data (← Flow.now)
  let token ← mint request.id
  match ← Flow.store (.insertSubmission request token) with
  | .error e => throw (submissionFailure e)
  | .ok () =>
    Flow.publish (.submitted request token.secret)
    return request
where
  /-- Fails with the reason for which a check fails. -/
  liftExcept (result : Except Failure Unit) : Attempt Unit := ExceptT.mk (return result)

/-- The request on record. -/
def find (requestId : String) : Attempt Request := do
  match ← Attempt.store (.findRequest requestId) with
  | some request => return request
  | none => throw requestNotFound

/-- What the holder of a string finds; nothing changes. -/
def inspect (ttl : Int) (requestId supplied : String) : Attempt Inspection := do
  match ← check ttl requestId supplied with
  | .valid =>
    let request ← find requestId
    if request.status.isTerminal then return .alreadyProcessed request.status
    else return .pending request
  | .spent | .expired =>
    match ← Flow.store (.findRequest requestId) with
    | .ok (some request) =>
      if request.status.isTerminal then return .alreadyProcessed request.status
      else throw .forbidden
    | _ => throw .forbidden
  | .missing | .mismatch | .unavailable => throw .forbidden

/-- Carries a decision out and announces it. -/
def commit (requestId : String) (decision : Decision) (actor : Actor) (guard : Option Guard) :
    Attempt Outcome := do
  let now ← Flow.now
  match ← Attempt.store (.commit requestId decision actor guard now) with
  | .committed before after =>
    Flow.publish (.statusChanged ⟨before, after⟩)
    return .processed after
  | .refused (.alreadyProcessed status) => return .alreadyProcessed status
  | .refused (.tokenRejected _) => throw .forbidden
  | .refused .notFound => throw requestNotFound

/-- A decision by whoever holds a string. The string is checked again when it is carried out. -/
def process (ttl : Int) (requestId supplied : String) (decision : Decision) :
    Attempt Outcome := do
  match ← inspect ttl requestId supplied with
  | .alreadyProcessed status => return .alreadyProcessed status
  | .pending _ => commit requestId decision .emailLink (some ⟨supplied, ttl⟩)

/-- A decision by an administrator in the panel; it uses the token up. -/
def processViaPanel (requestId : String) (decision : Decision) (adminId : String) :
    Attempt Outcome := do
  let admin := trim adminId
  if admin.isEmpty then throw (.invalid "An administrator id is required")
  commit requestId decision (.panel admin) none

end ApprovalDesk.Workflow
