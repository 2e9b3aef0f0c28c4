import ApprovalDesk.Dispatch
import ApprovalDesk.Proofs.Dialogue.Safe
import ApprovalDesk.Proofs.Flow.Kinds

/-!
# The steps of the dispatcher

Whatever event is handled, the dispatcher reads the clock, draws identifiers, sends letters, and calls
the store only to record what follows from a decision. It announces nothing, and no answer makes it
crash.
-/

namespace ApprovalDesk

set_option autoImplicit false

open ApprovalDesk.Dialogue

namespace Dispatch

section Steps

/- The questions are of a kind that takes in every step of a follow-up; whether it takes in the badge
matters only for an approval. -/
variable {P : Step → Prop} (ordinary : ∀ q : Step, q.followsUp = true → q.givesBadge = false → P q)

include ordinary

theorem notify_safe (r : Request) (now : Time.Instant) : (notify r now).Safe P fun _ _ => True := by
  unfold notify
  split
  · exact .done _
  · refine Safe.bind (.single (ordinary _ rfl rfl)) fun id => ?_
    cases Notification.forDecision r id now with
    | none => exact .done _
    | some n => exact .ask (ordinary _ rfl rfl) fun reply _ => .done _

theorem send_safe (letter : Int → Except MailError (Option Letter)) :
    (send letter).Safe P fun _ _ => True := by
  refine Safe.bind (.single (ordinary _ rfl rfl)) fun now => ?_
  rcases letter now.year with e | _ | l
  · exact .done _
  · exact .done _
  · exact .ask (ordinary _ rfl rfl) fun reply _ => .done _

theorem log_safe (r : Request) (now : Time.Instant) : (log r now).Safe P fun _ _ => True := by
  unfold log
  split
  · exact .done _
  · refine Safe.bind (.single (ordinary _ rfl rfl)) fun id => ?_
    cases AuditEntry.forDecision r id now with
    | none => exact .done _
    | some e => exact .ask (ordinary _ rfl rfl) fun reply _ => .done _

omit ordinary in
theorem certify_safe (r : Request) (now : Time.Instant)
    (badge : r.status = .approved → P (.store (.certifyProfile r.userId now))) :
    (certify r now).Safe P fun _ _ => True := by
  unfold certify
  split
  · next approved => exact .ask (badge approved) fun reply _ => .done _
  · exact .done _

/-- A change of status is followed up without a crash, and without the badge unless it is an approval. -/
theorem onStatusChange_safe (s : Settings) (c : StatusChange)
    (badge : c.after.status = .approved → ∀ now, P (.store (.certifyProfile c.after.userId now))) :
    (onStatusChange s c).Safe P fun _ _ => True := by
  unfold onStatusChange
  split
  · exact .done _
  · refine Safe.bind (.single (ordinary _ rfl rfl)) fun now => ?_
    refine (notify_safe ordinary c.after now).bind fun notification => ?_
    refine (certify_safe c.after now fun approved => badge approved now).bind fun profileFlag => ?_
    refine (send_safe ordinary _).bind fun userEmail => ?_
    refine (send_safe ordinary _).bind fun adminEmail => ?_
    exact (log_safe ordinary c.after now).bind fun auditEntry => .done _

end Steps

/-- Handling an event only records and tells what follows from it, and does not crash. -/
theorem handle_followsUp (s : Settings) (e : Event) :
    (handle s e).Safe (fun q => q.followsUp = true) fun _ _ => True := by
  have ordinary : ∀ q : Step, q.followsUp = true → q.givesBadge = false → q.followsUp = true :=
    fun _ followsUp _ => followsUp
  cases e with
  | submitted r token => exact (send_safe ordinary _).bind fun outcome => .done _
  | statusChanged c => exact onStatusChange_safe ordinary s c fun _ _ => rfl

/-- Handling an event only records and tells what follows from it. -/
theorem handle_asks (s : Settings) (e : Event) :
    (handle s e).AsksOnly fun q => q.followsUp = true := (handle_followsUp s e).asksOnly

end Dispatch

end ApprovalDesk
