import ApprovalDesk.Proofs.Dialogue.Turns
import ApprovalDesk.Proofs.Flow.Kinds
import ApprovalDesk.Proofs.World.Run

/-!
# What a run leaves alone

A step adds to the queue what it announces, if somebody reads it, and neither opens nor closes it. A run
that asks only some kinds of questions leaves alone whatever those questions leave alone (`run_keeps`):
reading leaves the store as it is, and following up leaves requests and tokens.
-/

namespace ApprovalDesk

set_option autoImplicit false

open ApprovalDesk.Dialogue

namespace World

variable {α β : Type}

/-! ## Announcements -/

/-- The events that a run announces, whether or not anybody reads them. -/
def announced : Flow α → World → List Event
  | .done _, _ | .crash _, _ => []
  | .ask q next, w => q.events ++ match w.answer q with
    | (.ok r, w) => announced (next r) w
    | (.error _, _) => []

theorem announced_bind (x : Flow α) (f : α → Flow β) (w : World) :
    announced (x >>= f) w = announced x w ++ match w.run x with
      | (.ok a, w) => announced (f a) w
      | (.error _, _) => [] := by
  induction x generalizing w with
  | done a => rfl
  | crash c => rfl
  | ask q next ih =>
    rw [ask_bind, announced, announced, run, Dialogue.run, List.append_assoc]
    rcases w.answer q with ⟨c | r, w'⟩
    · rfl
    · exact congrArg _ (ih r w')

@[simp] theorem announced_done (a : α) (w : World) : announced (.done a) w = [] := rfl

@[simp] theorem announced_readClock (next : Time.Instant → Flow α) (w : World) :
    announced (.ask .readClock next) w = announced (next w.now) w := rfl

section Store

variable {call : StoreCall} {next : Except StoreError call.Result → Flow α} {w : World}

theorem announced_store_down (down : w.up call = false) :
    announced (.ask (.store call) next) w = announced (next (.error .unavailable)) w := by
  rw [announced, answer, answerStore, down, if_neg Bool.false_ne_true]
  rfl

theorem announced_store_up {reply : Except StoreError call.Result} {s : Store} (up : w.up call = true)
    (answered : w.store.answer call = .ok (reply, s)) :
    announced (.ask (.store call) next) w = announced (next reply) { w with store := s } := by
  rw [announced, answer, answerStore, up, if_pos rfl, answered]
  rfl

theorem announced_store_crash {c : Crash} (up : w.up call = true)
    (crashed : w.store.answer call = .error c) : announced (.ask (.store call) next) w = [] := by
  rw [announced, answer, answerStore, up, if_pos rfl, crashed]
  rfl

end Store

theorem run_map (f : α → β) (x : Flow α) (w : World) :
    w.run (f <$> x) = ((w.run x).1.map f, (w.run x).2) := by
  rw [← bind_pure_comp, run_bind]
  rcases w.run x with ⟨c | a, w'⟩ <;> rfl

theorem announced_map (f : α → β) (x : Flow α) (w : World) : announced (f <$> x) w = announced x w := by
  rw [← bind_pure_comp, announced_bind]
  rcases w.run x with ⟨c | a, w'⟩ <;> simp

/-! ## Frames -/

/-- What every step keeps is kept by a run that asks only such questions. -/
theorem run_keeps (Kept : World → World → Prop) {P : Step → Prop} (refl : ∀ w, Kept w w)
    (trans : ∀ {u v w}, Kept u v → Kept v w → Kept u w)
    (step : ∀ q w, P q → Kept w (w.answer q).2) {x : Flow α} (h : x.AsksOnly P) (w : World) :
    Kept w (w.run x).2 := by
  induction h generalizing w with
  | done a => exact refl w
  | crash c => exact refl w
  | @ask q next kind _ ih =>
    have first := step q w kind
    rw [run, Dialogue.run]
    generalize w.answer q = result at first ⊢
    rcases result with ⟨c | r, w'⟩
    · exact first
    · exact trans first (ih r w')

/-- No step opens or closes the queue. -/
theorem listening_answer (q : Step) (w : World) : (w.answer q).2.listening = w.listening := by
  cases q with
  | store call => rw [answer, w.answerStore_visit call]
  | readClock | drawId => rfl
  | drawSecret | publish | deliver =>
    rw [answer]
    split <;> rfl

theorem queue_answer (q : Step) (w : World) :
    (w.answer q).2.queue = w.queue ++ if w.listening then q.events else [] := by
  cases q with
  | store call =>
    rw [answer, w.answerStore_visit call]
    simp [Step.events]
  | readClock | drawId => simp [answer, Step.events]
  | drawSecret | publish | deliver =>
    rw [answer]
    split <;> simp [Step.events, *]

theorem announced_of_quiet {x : Flow α} (quiet : x.AsksOnly fun q => q.quiet = true) (w : World) :
    announced x w = [] := by
  induction quiet generalizing w with
  | done a | crash c => rfl
  | @ask q next kind _ ih =>
    rw [announced, Step.events_of_quiet kind, List.nil_append]
    rcases w.answer q with ⟨c | r, w'⟩
    · rfl
    · exact ih r w'

theorem store_answer_of_reads (q : Step) (w : World) (reads : q.reads = true) :
    (w.answer q).2.store = w.store := by
  cases q with
  | store call =>
    rw [answer, w.answerStore_visit call]
    change (if w.up call then w.store.after call else w.store) = w.store
    cases w.up call with
    | false => rfl
    | true => cases call <;> first | rfl | cases reads
  | readClock | drawId => rfl
  | drawSecret =>
    rw [answer]
    split <;> rfl
  | publish | deliver => cases reads

/-- Reading leaves the store as it is. -/
theorem store_of_reads {x : Flow α} (reads : x.AsksOnly fun q => q.reads = true) (w : World) :
    (w.run x).2.store = w.store :=
  run_keeps (fun w w' => w'.store = w.store) (fun _ => rfl) (fun h k => k.trans h)
    store_answer_of_reads reads w

theorem records_answer_of_followsUp (q : Step) (w : World) (followsUp : q.followsUp = true) :
    (w.answer q).2.store.requests = w.store.requests ∧
      (w.answer q).2.store.tokens = w.store.tokens := by
  cases q with
  | store call =>
    rw [answer, w.answerStore_visit call]
    change (if w.up call then w.store.after call else w.store).requests = _ ∧
      (if w.up call then w.store.after call else w.store).tokens = _
    split
    · exact w.store.records_after followsUp
    · exact ⟨rfl, rfl⟩
  | readClock | drawId => exact ⟨rfl, rfl⟩
  | deliver l =>
    rw [answer]
    split <;> exact ⟨rfl, rfl⟩
  | drawSecret | publish => cases followsUp

/-- Following up leaves requests and tokens alone. -/
theorem records_of_followsUp {x : Flow α} (followsUp : x.AsksOnly fun q => q.followsUp = true)
    (w : World) :
    (w.run x).2.store.requests = w.store.requests ∧ (w.run x).2.store.tokens = w.store.tokens :=
  run_keeps
    (fun w w' => w'.store.requests = w.store.requests ∧ w'.store.tokens = w.store.tokens)
    (fun _ => ⟨rfl, rfl⟩) (fun h k => ⟨k.1.trans h.1, k.2.trans h.2⟩) records_answer_of_followsUp
    followsUp w

end World

end ApprovalDesk
