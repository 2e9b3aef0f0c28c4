import ApprovalDesk.World
import ApprovalDesk.Proofs.Store.History

/-!
# Running steps alone

What a world makes of each kind of step when nothing else happens in between. Only calls to the store
and announcements touch what the desk keeps, and a call to the store is a visit: it is carried out or
finds the store unavailable.
-/

namespace ApprovalDesk.World

set_option autoImplicit false

open ApprovalDesk.Time

variable {α β : Type}

/-- A world in which nothing fails: the store is up, there is one identifier and one block of random
bytes to draw, the queue is read and every letter arrives. -/
def quiet (store : Store) (now : Instant) : World where
  store := store
  up _ := true
  now := now
  ids _ := ⟨List.replicate 16 0, rfl⟩
  idsDrawn := 0
  secrets _ := ⟨List.replicate 32 0, rfl⟩
  secretsDrawn := 0
  randomUp := true
  listening := true
  queue := []
  relay _ := .ok ()
  outbox := []

/-- A request of the user Ann. -/
def annsRequest : Request :=
  Request.new "r1" ⟨"u1", "Ann", "ann@example.org", none, none⟩ ⟨0, 0⟩

/-- Ann's request and its token are all that is on record, a second after they were submitted. -/
def withAnnsRequest : World :=
  quiet { Store.empty with
    requests := Table.empty.insert "r1" annsRequest
    tokens := Table.empty.insert "r1" (Token.new "r1" "abc" ⟨0, 0⟩) } ⟨1, 0⟩

/-- The world after an announcement; without a reader it is lost. -/
def announce (w : World) (e : Event) : World :=
  if w.listening then { w with queue := w.queue ++ [e] } else w

/-- The world after an identifier has been drawn. -/
def numbered (w : World) : World := { w with idsDrawn := w.idsDrawn + 1 }

/-- The world after random bytes have been drawn. -/
def drawn (w : World) : World := { w with secretsDrawn := w.secretsDrawn + 1 }

@[simp] theorem announce_store (w : World) (e : Event) : (w.announce e).store = w.store := by
  unfold announce
  split <;> rfl

@[simp] theorem run_done (a : α) (w : World) : w.run (.done a) = (.ok a, w) := rfl

@[simp] theorem run_crash (c : Crash) (w : World) : w.run (.crash c : Flow α) = (.error c, w) := rfl

theorem run_bind (x : Flow α) (f : α → Flow β) (w : World) :
    w.run (x >>= f) = match w.run x with
      | (.ok a, w) => w.run (f a)
      | (.error c, w) => (.error c, w) := by
  rcases first : Dialogue.run answer x w with ⟨c | a, w'⟩ <;>
    simp only [run, Dialogue.run_bind, first]

theorem run_bind_ok {x : Flow α} {f : α → Flow β} {w w' : World} {a : α}
    (first : w.run x = (.ok a, w')) : w.run (x >>= f) = w'.run (f a) := by
  rw [run_bind, first]

@[simp] theorem run_readClock (next : Instant → Flow α) (w : World) :
    w.run (.ask .readClock next) = w.run (next w.now) := rfl

@[simp] theorem run_drawId (next : Uuid → Flow α) (w : World) :
    w.run (.ask .drawId next) = w.numbered.run (next (w.ids w.idsDrawn)) := rfl

theorem run_drawSecret (next : Option RandomBlock → Flow α) (w : World) :
    w.run (.ask .drawSecret next) =
      if w.randomUp then w.drawn.run (next (some (w.secrets w.secretsDrawn)))
      else w.run (next none) := by
  cases up : w.randomUp <;> simp [run, Dialogue.run, answer, drawn, up]

variable {call : StoreCall} {next : Except StoreError call.Result → Flow α} {w : World}

theorem run_store_down (down : w.up call = false) :
    w.run (.ask (.store call) next) = w.run (next (.error .unavailable)) := by
  unfold run
  rw [Dialogue.run, answer, answerStore, down, if_neg Bool.false_ne_true]

theorem run_store_up {reply : Except StoreError call.Result} {s : Store} (up : w.up call = true)
    (answered : w.store.answer call = .ok (reply, s)) :
    w.run (.ask (.store call) next) = { w with store := s }.run (next reply) := by
  unfold run
  rw [Dialogue.run, answer, answerStore, up, if_pos rfl, answered]

theorem run_store_crash {c : Crash} (up : w.up call = true)
    (crashed : w.store.answer call = .error c) :
    w.run (.ask (.store call) next) = (.error c, w) := by
  unfold run
  rw [Dialogue.run, answer, answerStore, up, if_pos rfl, crashed]

/-- What a call to the store makes of a world is a visit to its store, and nothing else. -/
theorem answerStore_visit (w : World) (call : StoreCall) :
    (w.answerStore call).2 = { w with store := w.store.visit ⟨call, w.up call⟩ } := by
  cases up : w.up call with
  | false =>
    rw [answerStore, up]
    rfl
  | true =>
    rw [answerStore, up, if_pos rfl, Store.visit, if_pos rfl]
    cases answered : w.store.answer call with
    | ok pair => rw [Store.after_of_answer answered]
    | error c => rw [Store.after_of_crash answered]

end ApprovalDesk.World
