import ApprovalDesk.Flow
import ApprovalDesk.Mail.Letters

/-!
# Dispatching events

What follows from an event: a notification, the badge on the profile, letters to the user and to the
administrator, and an entry in the audit log. Every step is tried whatever became of the others, and a
report says what became of each.
-/

namespace ApprovalDesk.Dispatch

set_option autoImplicit false

/-- What became of a step. -/
inductive StepOutcome where
  | skipped
  | done
  | failed
  deriving DecidableEq, Repr

/-- The name of an outcome. -/
def StepOutcome.name : StepOutcome → String
  | .skipped => "skipped"
  | .done => "done"
  | .failed => "failed"

/-- What became of the steps that follow from an event. -/
structure Report where
  notification : StepOutcome
  profileFlag : StepOutcome
  userEmail : StepOutcome
  adminEmail : StepOutcome
  auditEntry : StepOutcome
  deriving DecidableEq, Repr

/-- The report when there was nothing to do. -/
def Report.idle : Report := ⟨.skipped, .skipped, .skipped, .skipped, .skipped⟩

/-- The outcome of a step that was tried. -/
def outcome {ε : Type} : Except ε Unit → StepOutcome
  | .ok () => .done
  | .error _ => .failed

/-- The notification of the user. -/
def notify (r : Request) (now : Time.Instant) : Flow StepOutcome := do
  if r.isPending then return .skipped
  match Notification.forDecision r (← Flow.newId) now with
  | none => return .skipped
  | some n => return outcome (← Flow.store (.insertNotification n))

/-- The badge of the user, if the request was approved. -/
def certify (r : Request) (now : Time.Instant) : Flow StepOutcome := do
  if r.status = .approved then return outcome (← Flow.store (.certifyProfile r.userId now))
  else return .skipped

/-- A letter that says the year, if there is one to send. -/
def send (letter : Int → Except MailError (Option Letter)) : Flow StepOutcome := do
  match letter (← Flow.now).year with
  | .error _ => return .failed
  | .ok none => return .done
  | .ok (some l) => return outcome (← Flow.deliver l)

/-- The entry in the audit log. -/
def log (r : Request) (now : Time.Instant) : Flow StepOutcome := do
  if r.isPending then return .skipped
  match AuditEntry.forDecision r (← Flow.newId) now with
  | none => return .skipped
  | some e => return outcome (← Flow.store (.appendAudit e))

/-- What follows from a new request. -/
def onSubmitted (s : Settings) (r : Request) (token : String) : Flow Report := do
  let adminEmail ← send fun year => (Letter.newRequest s r token year).map some
  return { Report.idle with adminEmail }

/-- What follows from a change of status; only a decision has consequences. -/
def onStatusChange (s : Settings) (c : StatusChange) : Flow Report := do
  if !c.isDecision then return .idle
  let now ← Flow.now
  let notification ← notify c.after now
  let profileFlag ← certify c.after now
  let userEmail ← send fun year => .ok (Letter.userDecision s c.after year)
  let adminEmail ← send fun year => .ok (Letter.adminConfirmation s c.after year)
  let auditEntry ← log c.after now
  return { notification, profileFlag, userEmail, adminEmail, auditEntry }

/-- What follows from an event. -/
def handle (s : Settings) : Event → Flow Report
  | .submitted r token => onSubmitted s r token
  | .statusChanged c => onStatusChange s c

end ApprovalDesk.Dispatch
