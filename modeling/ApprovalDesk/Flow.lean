import ApprovalDesk.Dialogue
import ApprovalDesk.Event
import ApprovalDesk.Mail.Letter
import ApprovalDesk.Store.Basic

/-!
# Flows

The steps with which the desk reaches out: calls to the store, readings of the clock, random draws,
announcements and mails. A flow is a dialogue made of such steps; each of them happens at once, and
the store may fail in any of its calls.
-/

namespace ApprovalDesk

set_option autoImplicit false

open ApprovalDesk.Time

/-- A step with which the desk reaches out. -/
inductive Step where
  | store (call : StoreCall)
  | readClock
  | drawId
  /-- Draws random bytes for a secret; there may be none. -/
  | drawSecret
  | publish (event : Event)
  | deliver (letter : Letter)

/-- What a step yields. -/
@[reducible] def Step.Reply : Step → Type
  | .store call => Except StoreError call.Result
  | .readClock => Instant
  | .drawId => Uuid
  | .drawSecret => Option RandomBlock
  | .publish _ => Unit
  | .deliver _ => Except MailError Unit

/-- A computation made of steps. -/
abbrev Flow := Dialogue Step Step.Reply

/-- A flow that may fail with a reason for its caller. -/
abbrev Attempt := ExceptT Failure Flow

namespace Flow

/-- A call to the store. -/
def store (call : StoreCall) : Flow (Except StoreError call.Result) := Dialogue.ask (.store call) .done

/-- The time of the clock. -/
def now : Flow Instant := Dialogue.ask .readClock .done

/-- A fresh identifier. -/
def newId : Flow Uuid := Dialogue.ask .drawId .done

/-- Random bytes, if there are any. -/
def newSecret : Flow (Option RandomBlock) := Dialogue.ask .drawSecret .done

/-- Announces an event. -/
def publish (event : Event) : Flow Unit := Dialogue.ask (.publish event) .done

/-- Sends a mail. -/
def deliver (letter : Letter) : Flow (Except MailError Unit) := Dialogue.ask (.deliver letter) .done

end Flow

namespace Attempt

/-- A call to the store whose failure is passed on to the caller. -/
def store (call : StoreCall) : Attempt call.Result :=
  ExceptT.mk do return (← Flow.store call).mapError .storage

end Attempt

end ApprovalDesk
