import ApprovalDesk.Proofs.Store.Calls
import ApprovalDesk.Flow

/-!
# Kinds of steps

What a step can do to the world is told by its kind: steps that read change no record and announce
nothing, quiet steps neither carry out a decision nor announce anything, and steps that follow up
record and tell what follows from an event.
-/

namespace ApprovalDesk.Step

set_option autoImplicit false

/-- A step that carries out a decision. -/
def isCommit : Step → Bool
  | .store (.commit ..) => true
  | _ => false

/-- A step that neither carries out a decision nor announces anything. -/
def quiet : Step → Bool
  | .store (.commit ..) | .publish _ => false
  | _ => true

/-- A step that changes no record and announces nothing. -/
def reads : Step → Bool
  | .store .ping | .store (.findRequest _) | .store (.findToken _) | .readClock | .drawId
  | .drawSecret => true
  | _ => false

/-- A step that records or tells what follows from an event. -/
def followsUp : Step → Bool
  | .store call => call.isConsequence
  | .readClock | .drawId | .deliver _ => true
  | .drawSecret | .publish _ => false

/-- A step that gives a user the badge. -/
def givesBadge : Step → Bool
  | .store (.certifyProfile ..) => true
  | _ => false

/-- The events that a step announces. -/
def events : Step → List Event
  | .publish e => [e]
  | .store _ | .readClock | .drawId | .drawSecret | .deliver _ => []

variable {q : Step}

theorem isCommit_of_quiet (quiet : q.quiet = true) : q.isCommit = false := by
  cases q with
  | store call => cases call <;> first | rfl | cases quiet
  | readClock | drawId | drawSecret | publish | deliver => rfl

theorem events_of_quiet (quiet : q.quiet = true) : q.events = [] := by
  cases q with
  | publish e => cases quiet
  | store | readClock | drawId | drawSecret | deliver => rfl

theorem quiet_of_reads (reads : q.reads = true) : q.quiet = true := by
  cases q with
  | store call => cases call <;> first | rfl | cases reads
  | publish => cases reads
  | readClock | drawId | drawSecret | deliver => rfl

theorem quiet_of_followsUp (followsUp : q.followsUp = true) : q.quiet = true := by
  cases q with
  | store call => cases call <;> first | rfl | cases followsUp
  | publish => cases followsUp
  | readClock | drawId | drawSecret | deliver => rfl

end ApprovalDesk.Step
