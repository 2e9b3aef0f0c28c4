import ApprovalDesk.Flow

/-!
# The world of the desk

A store in memory, a clock, sources of identifiers and random bytes, the queue of events and the
outbox of letters. The store answers the calls that are `up`; the world changes with every step and,
unlike the answers, outlasts a crash.
-/

namespace ApprovalDesk

set_option autoImplicit false

open ApprovalDesk.Time

/-- What surrounds the desk. -/
structure World where
  store : Store
  /-- The calls that the store answers at present. -/
  up : StoreCall → Bool
  now : Instant
  /-- The identifiers in the order in which they are drawn. -/
  ids : Nat → Uuid
  idsDrawn : Nat
  /-- The random bytes in the order in which they are drawn. -/
  secrets : Nat → RandomBlock
  secretsDrawn : Nat
  /-- There are random bytes at present. -/
  randomUp : Bool
  /-- Somebody reads the queue of events. -/
  listening : Bool
  /-- The events that nobody has read yet. -/
  queue : List Event
  /-- What becomes of a letter. -/
  relay : Letter → Except MailError Unit
  /-- The letters that were delivered. -/
  outbox : List Letter

namespace World

/-- A call to the store. -/
def answerStore (call : StoreCall) (w : World) :
    Except Crash (Except StoreError call.Result) × World :=
  if w.up call then
    match w.store.answer call with
    | .ok (reply, store) => (.ok reply, { w with store })
    | .error c => (.error c, w)
  else (.ok (.error .unavailable), w)

/-- What a step yields and what it changes. -/
def answer : (step : Step) → World → Except Crash step.Reply × World
  | .store call, w => w.answerStore call
  | .readClock, w => (.ok w.now, w)
  | .drawId, w => (.ok (w.ids w.idsDrawn), { w with idsDrawn := w.idsDrawn + 1 })
  | .drawSecret, w =>
    if w.randomUp then
      (.ok (some (w.secrets w.secretsDrawn)), { w with secretsDrawn := w.secretsDrawn + 1 })
    else (.ok none, w)
  | .publish event, w =>
    (.ok (), if w.listening then { w with queue := w.queue ++ [event] } else w)
  | .deliver letter, w =>
    match w.relay letter with
    | .ok () => (.ok (.ok ()), { w with outbox := w.outbox ++ [letter] })
    | .error e => (.ok (.error e), w)

/-- Runs a flow to its end. -/
def run {α : Type} (f : Flow α) (w : World) : Except Crash α × World := f.run answer w

end World

end ApprovalDesk
