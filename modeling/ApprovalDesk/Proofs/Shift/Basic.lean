import ApprovalDesk.Proofs.Dispatch.Consequences
import ApprovalDesk.Proofs.Weather.Deeds

/-!
# Shifts

A shift at the desk is a row of jobs, each done in the weather of its time: somebody makes a call, or the
dispatcher takes the first event from the queue and handles it. Between two jobs nothing happens that
the weather of the next one cannot tell. The shift keeps a receipt for each call, with the answer and
with what was on record when the answer was given, and the events that were handled. What a job can do
is said once (`job_outcome`); laws about whole shifts are derived from it.
-/

namespace ApprovalDesk

set_option autoImplicit false

/-- Something that is done at the desk, in the weather of its time. -/
inductive Job where
  | call (c : Call) (sky : Sky)
  /-- The dispatcher takes the first event from the queue, if there is one, and handles it. -/
  | dispatch (sky : Sky)

/-- The receipt for a call. -/
structure Receipt where
  call : Call
  answer : Except Crash Answer
  /-- What is on record when the answer is given. -/
  store : Store

/-- The world at some moment, the events handled so far, and the receipts for the calls so far. -/
structure Shift where
  world : World
  handled : List Event
  receipts : List Receipt

namespace Shift

/-- A shift that begins. -/
def opening (w : World) : Shift := ⟨w, [], []⟩

/-- What is on record. -/
def store (x : Shift) : Store := x.world.store

/-- The shift after a call. -/
def call (s : Settings) (x : Shift) (c : Call) (sky : Sky) : Shift :=
  let done := Scene.run (c.flow s) ⟨x.world, sky⟩
  { x with
    world := done.2.world
    receipts := x.receipts ++ [⟨c, done.1, done.2.world.store⟩] }

/-- The shift after the dispatcher has had its turn. -/
def dispatch (s : Settings) (x : Shift) (sky : Sky) : Shift :=
  match x.world.queue with
  | [] => x
  | e :: rest =>
    { x with
      world := (Scene.run (Dispatch.handle s e) ⟨{ x.world with queue := rest }, sky⟩).2.world
      handled := x.handled ++ [e] }

/-- The shift after one job. -/
def job (s : Settings) (x : Shift) : Job → Shift
  | .call c sky => x.call s c sky
  | .dispatch sky => x.dispatch s sky

/-- The shift after some jobs. -/
def jobs (s : Settings) (x : Shift) (js : List Job) : Shift := js.foldl (job s) x

/-- What each of the jobs keeps, the whole shift keeps. -/
theorem jobs_keep (Kept : Shift → Prop) {s : Settings} {js : List Job}
    (step : ∀ x, ∀ j ∈ js, Kept x → Kept (x.job s j)) {x : Shift} (start : Kept x) :
    Kept (x.jobs s js) := by
  induction js generalizing x with
  | nil => exact start
  | cons j js ih =>
    refine ih (fun y k member => step y k (List.mem_cons_of_mem j member)) ?_
    exact step x j List.mem_cons_self start

/-- A job keeps the history of the store. -/
theorem continues_job (s : Settings) (x : Shift) (j : Job) : x.store.Continues (x.job s j).store := by
  cases j with
  | call c sky => exact Scene.continues_run (c.flow s) ⟨x.world, sky⟩
  | dispatch sky =>
    rw [job, dispatch]
    split
    · exact .refl x.store
    · next e rest _ =>
      exact Scene.continues_run (Dispatch.handle s e) ⟨{ x.world with queue := rest }, sky⟩

/-- What a job can do. -/
inductive JobOutcome (x : Shift) : Job → Shift → Prop where
  /-- A call to the workflow does a deed or nothing. -/
  | served {c : Call} {sky : Sky} {answer : Except Crash Answer} {deed : Deed} {w : World}
      (service : c.isService = true) (explains : deed.Explains x.store c answer)
      (store : w.store = deed.store x.store)
      (queue : w.queue = x.world.queue ++ if x.world.listening then deed.events else [])
      (heard : w.listening = x.world.listening) :
      JobOutcome x (.call c sky) ⟨w, x.handled, x.receipts ++ [⟨c, answer, w.store⟩]⟩
  /-- Somebody has the dispatcher handle an event that need not be in the queue. -/
  | told {e : Event} {sky : Sky} {answer : Except Crash Answer} {w : World}
      (modest : ∀ a, answer = .ok a → a.claims = false)
      (aftermath : x.store.Aftermath w.store) (queue : w.queue = x.world.queue)
      (heard : w.listening = x.world.listening) :
      JobOutcome x (.call (.handle e) sky) ⟨w, x.handled, x.receipts ++ [⟨.handle e, answer, w.store⟩]⟩
  | idle {sky : Sky} (empty : x.world.queue = []) : JobOutcome x (.dispatch sky) x
  | dispatched {sky : Sky} {e : Event} {w : World} (queue : x.world.queue = e :: w.queue)
      (aftermath : x.store.Aftermath w.store)
      (settles : (∀ n, (sky n).storeUp = true) → e.Settles x.store w.store)
      (heard : w.listening = x.world.listening) :
      JobOutcome x (.dispatch sky) ⟨w, x.handled ++ [e], x.receipts⟩

theorem job_outcome (s : Settings) (x : Shift) (j : Job) : x.JobOutcome j (x.job s j) := by
  cases j with
  | call c sky =>
    have heard := Scene.listening_run (c.flow s) ⟨x.world, sky⟩
    by_cases event : ∃ e, c = .handle e
    · obtain ⟨e, rfl⟩ := event
      have run : (Scene.run ((Call.handle e).flow s) ⟨x.world, sky⟩).2 =
          (Scene.run (Dispatch.handle s e) ⟨x.world, sky⟩).2 := by
        rw [Call.flow, Scene.run_map]
      refine .told ?_ ?_ ?_ heard
      · intro a same
        rw [Call.flow, Scene.run_map] at same
        generalize (Scene.run (Dispatch.handle s e) ⟨x.world, sky⟩).1 = report at same
        rcases report with c | report <;> cases same
        rfl
      · rw [run]
        exact Scene.aftermath_handle s e ⟨x.world, sky⟩
      · rw [run]
        exact Scene.queue_handle s e ⟨x.world, sky⟩
    · have service : c.isService = true := by
        cases c with
        | handle e => exact absurd ⟨e, rfl⟩ event
        | submit | find | inspect | validate | issue | markUsed | process | processViaPanel => rfl
      obtain ⟨deed, explains, store, queue⟩ := Scene.run_call s service ⟨x.world, sky⟩
      exact .served service explains store queue heard
  | dispatch sky =>
    rw [job, dispatch]
    split
    · next empty => exact .idle empty
    · next e rest queue =>
      have quiet := Scene.queue_handle s e ⟨{ x.world with queue := rest }, sky⟩
      refine .dispatched ?_ ?_ ?_ ?_
      · rw [quiet, queue]
      · exact Scene.aftermath_handle s e ⟨{ x.world with queue := rest }, sky⟩
      · intro up
        have calm : Scene.Calm ⟨{ x.world with queue := rest }, sky⟩ := up
        exact Scene.settles_handle s e calm
      · exact Scene.listening_run (Dispatch.handle s e) ⟨{ x.world with queue := rest }, sky⟩

end Shift

end ApprovalDesk
