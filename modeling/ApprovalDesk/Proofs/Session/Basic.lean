import ApprovalDesk.Proofs.Workflow.Deeds

/-!
# Sessions

A session of the desk: calls made one after the other, and in between whatever happens around the
store. The clock is set, forwards or backwards, the store goes down and comes back, random bytes run
out, events are read. The session remembers of each call when it was made, what it was answered, and
what it announced; that is all that anybody outside gets to see of it.
-/

namespace ApprovalDesk

set_option autoImplicit false

open ApprovalDesk.Time ApprovalDesk.Workflow

/-- A call that was made. -/
structure Entry where
  call : Call
  time : Instant
  answer : Except Crash Answer
  announced : List Event

/-- What can happen in a session. -/
inductive Act where
  | call (c : Call)
  /-- Something changes around the store. -/
  | outside (change : World → World)

/-- The world at some moment and the calls made so far. -/
structure Session where
  world : World
  past : List Entry

namespace Session

/-- A session that begins with an empty store. -/
def opened (w : World) : Session := ⟨{ w with store := .empty }, []⟩

/-- The entry of a call in a world. -/
def entry (s : Settings) (w : World) (c : Call) : Entry :=
  ⟨c, w.now, (w.run (c.flow s)).1, World.announced (c.flow s) w⟩

/-- The session after one act. -/
def act (s : Settings) (x : Session) : Act → Session
  | .call c => ⟨(x.world.run (c.flow s)).2, x.past ++ [entry s x.world c]⟩
  | .outside change => { x with world := { change x.world with store := x.world.store } }

/-- The session after some acts. -/
def acts (s : Settings) (x : Session) (as : List Act) : Session := as.foldl (act s) x

/-- What one act keeps, every session keeps. -/
theorem acts_keep (Kept : Session → Prop) {s : Settings}
    (step : ∀ x a, Kept x → Kept (x.act s a)) {x : Session} (start : Kept x) (as : List Act) :
    Kept (x.acts s as) := by
  induction as generalizing x with
  | nil => exact start
  | cons a as ih => exact ih (step x a start)

end Session

end ApprovalDesk
