import ApprovalDesk.Proofs.Weather.Scene

/-!
# Flows that do one thing or nothing

A reply of the store says whether the call was carried out (`StoreCall.confirmed`), and a call that was
not carried out has changed nothing. A flow is `AllOrNothing` if it looks around until a reply says that
a call was carried out, and from then on does no more than announce it and give an answer that tells of
it. The shape is read off the flow alone; what it means for a run, under every sky, is
`run_allOrNothing`.
-/

namespace ApprovalDesk

set_option autoImplicit false

open ApprovalDesk.Dialogue

namespace StoreCall

/-- The reply says that the call has changed what is on record. -/
def confirmed : (call : StoreCall) → Except StoreError call.Result → Bool
  | .insertRequest _, .ok _ | .insertSubmission .., .ok _ | .insertNotification _, .ok _
  | .certifyProfile .., .ok _ | .appendAudit _, .ok _ => true
  | .insertToken _, .ok stored => stored
  | .markTokenUsed .., .ok marked => marked
  | .commit .., .ok (.committed ..) => true
  | _, _ => false

/-- What there is to announce when a call has got a reply. -/
def news : (call : StoreCall) → Except StoreError call.Result → List Event
  | .insertSubmission r t, .ok _ => [.submitted r t.secret]
  | .commit .., .ok (.committed before after) => [.statusChanged ⟨before, after⟩]
  | _, _ => []

@[simp] theorem confirmed_error (call : StoreCall) (e : StoreError) :
    call.confirmed (.error e) = false := by
  cases call <;> rfl

end StoreCall

/-- A call that is not confirmed has changed nothing. -/
theorem Store.same_of_unconfirmed {s s' : Store} {call : StoreCall}
    {reply : Except StoreError call.Result} (answered : s.answer call = .ok (reply, s'))
    (unconfirmed : call.confirmed reply = false) : s' = s := by
  cases call with
  | ping | findRequest id | findToken id =>
    cases answered
    rfl
  | insertRequest r =>
    rw [answer, insertRequest] at answered
    split at answered <;> cases answered
    · rfl
    · cases unconfirmed
  | insertSubmission r t =>
    rw [answer, insertSubmission] at answered
    split at answered <;> cases answered
    · rfl
    · cases unconfirmed
  | insertToken t =>
    cases found : s.tokens.find? t.requestId with
    | some old =>
      rw [answer_insertToken_old found] at answered
      cases answered
      rfl
    | none =>
      rw [answer_insertToken_new found] at answered
      cases answered
      cases unconfirmed
  | markTokenUsed id now =>
    rcases s.answer_markTokenUsed id now with ⟨t, -, -, marked⟩ | unmarked
    · rw [marked] at answered
      cases answered
      cases unconfirmed
    · rw [unmarked] at answered
      cases answered
      rfl
  | commit id d a g now =>
    have ends := s.commit_cases id d a g now
    rw [answer] at answered
    cases result : s.commit id d a g now with
    | error c =>
      rw [result] at answered
      cases answered
    | ok pair =>
      rw [result] at answered ends
      cases answered
      cases ends with
      | missing | settled | barred => rfl
      | carried => cases unconfirmed
  | insertNotification | certifyProfile | appendAudit =>
    cases answered
    cases unconfirmed

namespace Flow

variable {α β : Type}

/-- Announces events one after the other and ends with a value. -/
def announcing (a : α) : List Event → Flow α
  | [] => .done a
  | e :: es => .ask (.publish e) fun _ => announcing a es

theorem map_announcing (f : α → β) (a : α) (es : List Event) :
    f <$> announcing a es = announcing (f a) es := by
  induction es with
  | nil => rfl
  | cons e es ih => exact congrArg (Dialogue.ask (Step.publish e)) (funext fun _ => ih)

/-- The flow has one call carried out at most, and then only announces it; its value is one of the
`Idle` ones, or tells which call was carried out and what the store replied. -/
inductive AllOrNothing (Idle : α → Prop)
    (Tells : α → (call : StoreCall) → Except StoreError call.Result → Prop) : Flow α → Prop where
  | done {a : α} (idle : Idle a) : AllOrNothing Idle Tells (.done a)
  | crash (c : Crash) : AllOrNothing Idle Tells (.crash c)
  | look {q : Step} {next : q.Reply → Flow α} (reads : q.reads = true)
      (rest : ∀ r, AllOrNothing Idle Tells (next r)) : AllOrNothing Idle Tells (.ask q next)
  | call {call : StoreCall} {next : Except StoreError call.Result → Flow α}
      (refused : ∀ reply, call.confirmed reply = false → AllOrNothing Idle Tells (next reply))
      (carried : ∀ reply, call.confirmed reply = true →
        ∃ a, next reply = announcing a (call.news reply) ∧ Tells a call reply) :
      AllOrNothing Idle Tells (.ask (.store call) next)

namespace AllOrNothing

variable {Idle : α → Prop} {Tells : α → (call : StoreCall) → Except StoreError call.Result → Prop}
  {f : Flow α}

/-- Looking around first changes nothing. -/
theorem of_reads_bind {x : Flow β} {g : β → Flow α} (reads : x.AsksOnly fun q => q.reads = true)
    (rest : ∀ b, AllOrNothing Idle Tells (g b)) : AllOrNothing Idle Tells (x >>= g) := by
  induction reads with
  | done b => exact rest b
  | crash c => exact .crash c
  | ask kind _ ih => exact .look kind ih

/-- A flow that only looks around does nothing. -/
theorem of_reads (reads : f.AsksOnly fun q => q.reads = true) (idle : ∀ a, Idle a) :
    AllOrNothing Idle Tells f := by
  rw [← bind_pure f]
  exact of_reads_bind reads fun a => .done (idle a)

/-- What a flow has been shown to do says all that a weaker account of it says. -/
theorem mono {Idle' : α → Prop}
    {Tells' : α → (call : StoreCall) → Except StoreError call.Result → Prop}
    (h : AllOrNothing Idle Tells f) (idle : ∀ {a}, Idle a → Idle' a)
    (tells : ∀ {a call reply}, Tells a call reply → Tells' a call reply) :
    AllOrNothing Idle' Tells' f := by
  induction h with
  | done quiet => exact .done (idle quiet)
  | crash c => exact .crash c
  | look kind _ ih => exact .look kind ih
  | call _ carried ih =>
    refine .call ih fun reply confirmed => ?_
    obtain ⟨a, rest, told⟩ := carried reply confirmed
    exact ⟨a, rest, tells told⟩

/-- The same flow with its value told in other words. -/
theorem map {Idle : β → Prop}
    {Tells : β → (call : StoreCall) → Except StoreError call.Result → Prop} {g : α → β}
    (h : AllOrNothing (fun a => Idle (g a)) (fun a => Tells (g a)) f) :
    AllOrNothing Idle Tells (g <$> f) := by
  induction h with
  | done idle => exact .done idle
  | crash c => exact .crash c
  | look kind _ ih => exact .look kind ih
  | call _ carried ih =>
    refine .call ih fun reply confirmed => ?_
    obtain ⟨a, rest, tells⟩ := carried reply confirmed
    refine ⟨g a, ?_, tells⟩
    rw [← map_announcing, ← rest]
    rfl

end AllOrNothing

end Flow

namespace Scene

variable {α : Type} {Idle : α → Prop}
  {Tells : α → (call : StoreCall) → Except StoreError call.Result → Prop}

/-- What a run can come to that does one thing or nothing. -/
inductive Outcome (Idle : α → Prop)
    (Tells : α → (call : StoreCall) → Except StoreError call.Result → Prop) (w : World) :
    Except Crash α × Scene → Prop where
  | nothing {out : Except Crash α} {x : Scene} (idle : ∀ a, out = .ok a → Idle a)
      (store : x.world.store = w.store) (queue : x.world.queue = w.queue) :
      Outcome Idle Tells w (out, x)
  | carried {a : α} {x : Scene} {call : StoreCall} {reply : Except StoreError call.Result}
      (answered : w.store.answer call = .ok (reply, x.world.store))
      (tells : Tells a call reply)
      (queue : x.world.queue = w.queue ++ if w.listening then call.news reply else []) :
      Outcome Idle Tells w (.ok a, x)

/-- Only the store, the queue and whether it is read matter. -/
theorem Outcome.of_same {v w : World} {p : Except Crash α × Scene} (h : Outcome Idle Tells v p)
    (store : v.store = w.store) (queue : v.queue = w.queue) (heard : v.listening = w.listening) :
    Outcome Idle Tells w p := by
  cases h with
  | nothing idle store' queue' => exact .nothing idle (store'.trans store) (queue'.trans queue)
  | carried answered tells queue' =>
    rw [store] at answered
    rw [queue, heard] at queue'
    exact .carried answered tells queue'

/-- Announcements reach the queue if it is read, and nothing else changes. -/
theorem run_announcing (a : α) (es : List Event) (x : Scene) :
    ∃ x', x.run (Flow.announcing a es) = (.ok a, x') ∧ x'.world.store = x.world.store ∧
      x'.world.queue = x.world.queue ++ if x.world.listening then es else [] := by
  induction es generalizing x with
  | nil => exact ⟨x, rfl, rfl, by simp⟩
  | cons e es ih =>
    obtain ⟨x', rest, store, queue⟩ := ih (x.answer (.publish e)).2
    refine ⟨x', rest, ?_, ?_⟩
    · rw [store]
      change ((x.world.under (x.sky 0)).answer (.publish e)).2.store = _
      rw [World.answer]
      dsimp only
      split <;> rfl
    · have own := World.queue_answer (.publish e) (x.world.under (x.sky 0))
      have heard := World.listening_answer (.publish e) (x.world.under (x.sky 0))
      change (x.answer (.publish e)).2.world.queue = _ at own
      change (x.answer (.publish e)).2.world.listening = x.world.listening at heard
      rw [queue, own, heard]
      change (x.world.queue ++ if x.world.listening then [e] else []) ++ _ = _
      split <;> simp

/-- **A flow that does one thing or nothing** does so in every run, whatever the weather. -/
theorem run_allOrNothing {f : Flow α} (h : Flow.AllOrNothing Idle Tells f) (x : Scene) :
    Outcome Idle Tells x.world (x.run f) := by
  induction h generalizing x with
  | @done a idle =>
    refine .nothing ?_ rfl rfl
    rintro b ⟨⟩
    exact idle
  | crash c => exact .nothing (by simp) rfl rfl
  | @look q next reads _ ih =>
    have store : (x.answer q).2.world.store = x.world.store :=
      World.store_answer_of_reads q _ reads
    have queue : (x.answer q).2.world.queue = x.world.queue := by
      refine (World.queue_answer q _).trans ?_
      rw [Step.events_of_quiet (Step.quiet_of_reads reads), ite_self]
      exact List.append_nil _
    have heard : (x.answer q).2.world.listening = x.world.listening :=
      World.listening_answer q _
    rw [run_ask]
    generalize x.answer q = result at store queue heard ⊢
    rcases result with ⟨c | r, x'⟩
    · exact .nothing (by simp) store queue
    · exact (ih r x').of_same store queue heard
  | @call call next _ carried ih =>
    rw [run_ask]
    cases up : (x.sky 0).storeUp with
    | false =>
      rw [answer_store_down up]
      exact (ih _ (call.confirmed_error .unavailable) _).of_same rfl rfl rfl
    | true =>
      cases answered : x.world.store.answer call with
      | error c =>
        rw [answer_store_crash up answered]
        exact .nothing (by simp) rfl rfl
      | ok pair =>
        obtain ⟨reply, s⟩ := pair
        rw [answer_store_up up answered]
        cases confirmed : call.confirmed reply with
        | false =>
          obtain rfl := Store.same_of_unconfirmed answered confirmed
          exact (ih reply confirmed _).of_same rfl rfl rfl
        | true =>
          obtain ⟨a, rest, tells⟩ := carried reply confirmed
          obtain ⟨x', run, store, queue⟩ := run_announcing a (call.news reply) (x.stored s)
          dsimp only
          rw [rest, run]
          have last : x'.world.store = s := store
          exact .carried (by rw [last, answered]) tells queue

end Scene

end ApprovalDesk
