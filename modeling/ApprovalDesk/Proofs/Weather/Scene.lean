import ApprovalDesk.Proofs.World.Frame

/-!
# Changing weather

While a call runs, everything around the desk can change before each of its steps: the clock moves,
forwards or backwards, the store goes down or comes back, random bytes run out, letters are lost. A sky
says what the weather is at each step, and a scene is a world under a sky. Every pattern of outages in
the middle of a call is a sky; what holds under every sky holds whatever happens meanwhile.
-/

namespace ApprovalDesk

set_option autoImplicit false

open ApprovalDesk.Dialogue ApprovalDesk.Time

/-- What surrounds the desk at a moment. -/
structure Weather where
  now : Instant
  /-- The store can be reached. -/
  storeUp : Bool
  /-- There are random bytes. -/
  randomUp : Bool
  /-- What becomes of a letter. -/
  relay : Letter → Except MailError Unit

/-- The weather at each of the steps to come. -/
abbrev Sky := Nat → Weather

/-- The clock stands still, and nothing fails. -/
def Sky.fair : Sky := fun _ => ⟨⟨0, 0⟩, true, true, fun _ => .ok ()⟩

namespace World

/-- The world when the weather has changed. -/
def under (w : World) (x : Weather) : World :=
  { w with now := x.now, up := fun _ => x.storeUp, randomUp := x.randomUp, relay := x.relay }

/-- A step keeps the history of the store. -/
theorem continues_answer (q : Step) (w : World) : w.store.Continues (w.answer q).2.store := by
  cases q with
  | store call =>
    rw [answer, w.answerStore_visit call]
    exact w.store.continues_visit _
  | readClock | drawId => exact .refl w.store
  | drawSecret | publish | deliver =>
    rw [answer]
    split <;> exact .refl w.store

end World

/-- A world and the weather at each step to come. -/
structure Scene where
  world : World
  sky : Sky

namespace Scene

variable {α β : Type}

/-- A step in the weather that comes next. -/
def answer (q : Step) (x : Scene) : Except Crash q.Reply × Scene :=
  let result := (x.world.under (x.sky 0)).answer q
  (result.1, ⟨result.2, fun n => x.sky (n + 1)⟩)

/-- Runs a flow to its end. -/
def run (f : Flow α) (x : Scene) : Except Crash α × Scene := Dialogue.run answer f x

@[simp] theorem run_done (a : α) (x : Scene) : x.run (.done a : Flow α) = (.ok a, x) := rfl

@[simp] theorem run_crash (c : Crash) (x : Scene) : x.run (.crash c : Flow α) = (.error c, x) := rfl

theorem run_ask (q : Step) (next : q.Reply → Flow α) (x : Scene) :
    x.run (.ask q next) = match x.answer q with
      | (.ok r, x) => x.run (next r)
      | (.error c, x) => (.error c, x) := by
  unfold run
  rw [Dialogue.run]
  rcases x.answer q with ⟨c | r, x'⟩ <;> rfl

theorem run_bind (f : Flow α) (g : α → Flow β) (x : Scene) :
    x.run (f >>= g) = match x.run f with
      | (.ok a, x) => x.run (g a)
      | (.error c, x) => (.error c, x) := by
  rcases first : Dialogue.run answer f x with ⟨c | a, x'⟩ <;>
    simp only [run, Dialogue.run_bind, first]

theorem run_bind_ok {f : Flow α} {g : α → Flow β} {x x' : Scene} {a : α}
    (first : x.run f = (.ok a, x')) : x.run (f >>= g) = x'.run (g a) := by
  rw [run_bind, first]

theorem run_map (f : α → β) (g : Flow α) (x : Scene) :
    x.run (f <$> g) = ((x.run g).1.map f, (x.run g).2) := by
  rw [← bind_pure_comp, run_bind]
  rcases x.run g with ⟨c | a, x'⟩ <;> rfl

/-! ## Steps beside the store -/

/-- A step passes that leaves the store as it is; the weather of the next step comes up. -/
structure Passes (x x' : Scene) : Prop where
  store : x'.world.store = x.world.store
  sky : ∀ n, x'.sky n = x.sky (n + 1)

theorem answer_readClock (x : Scene) :
    ∃ x', x.answer .readClock = (.ok (x.sky 0).now, x') ∧ x.Passes x' :=
  ⟨_, rfl, rfl, fun _ => rfl⟩

theorem answer_drawId (x : Scene) :
    ∃ x', x.answer .drawId = (.ok (x.world.ids x.world.idsDrawn), x') ∧ x.Passes x' :=
  ⟨_, rfl, rfl, fun _ => rfl⟩

/-- There are random bytes for a secret if there are any at the time. -/
theorem answer_drawSecret (x : Scene) : ∃ random x', x.answer .drawSecret = (.ok random, x') ∧
    random.isSome = (x.sky 0).randomUp ∧ x.Passes x' := by
  have present : (x.world.under (x.sky 0)).randomUp = (x.sky 0).randomUp := rfl
  rw [answer, World.answer]
  cases up : (x.sky 0).randomUp with
  | false =>
    rw [present, up, if_neg Bool.false_ne_true]
    exact ⟨none, _, rfl, rfl, rfl, fun _ => rfl⟩
  | true =>
    rw [present, up, if_pos rfl]
    exact ⟨some _, _, rfl, rfl, rfl, fun _ => rfl⟩

/-- A step that is no call to the store gets its answer. -/
theorem answer_passes {q : Step} (other : ∀ call, q ≠ .store call) (x : Scene) :
    ∃ reply x', x.answer q = (.ok reply, x') ∧ x.Passes x' := by
  cases q with
  | store call => exact absurd rfl (other call)
  | readClock | drawId => exact ⟨_, _, rfl, rfl, fun _ => rfl⟩
  | drawSecret =>
    obtain ⟨random, x', drawn, -, passes⟩ := x.answer_drawSecret
    exact ⟨random, x', drawn, passes⟩
  | publish event =>
    refine ⟨(), _, rfl, ?_, fun _ => rfl⟩
    rw [World.answer]
    split <;> rfl
  | deliver letter =>
    rw [answer, World.answer]
    split
    · exact ⟨_, _, rfl, rfl, fun _ => rfl⟩
    · exact ⟨_, _, rfl, rfl, fun _ => rfl⟩

/-! ## Calls to the store -/

section Store

variable {call : StoreCall} {x : Scene}

/-- The scene after a call to the store. -/
def stored (x : Scene) (s : Store) : Scene :=
  ⟨{ x.world.under (x.sky 0) with store := s }, fun n => x.sky (n + 1)⟩

theorem answer_store_down (down : (x.sky 0).storeUp = false) :
    x.answer (.store call) = (.ok (.error .unavailable), x.stored x.world.store) := by
  have down' : (x.world.under (x.sky 0)).up call = false := down
  rw [answer, World.answer, World.answerStore, down', if_neg Bool.false_ne_true]
  rfl

theorem answer_store_up {reply : Except StoreError call.Result} {s : Store}
    (up : (x.sky 0).storeUp = true) (answered : x.world.store.answer call = .ok (reply, s)) :
    x.answer (.store call) = (.ok reply, x.stored s) := by
  have up' : (x.world.under (x.sky 0)).up call = true := up
  have answered' : (x.world.under (x.sky 0)).store.answer call = .ok (reply, s) := answered
  rw [answer, World.answer, World.answerStore, up', if_pos rfl, answered']
  rfl

theorem answer_store_crash {c : Crash} (up : (x.sky 0).storeUp = true)
    (crashed : x.world.store.answer call = .error c) :
    x.answer (.store call) = (.error c, x.stored x.world.store) := by
  have up' : (x.world.under (x.sky 0)).up call = true := up
  have crashed' : (x.world.under (x.sky 0)).store.answer call = .error c := crashed
  rw [answer, World.answer, World.answerStore, up', if_pos rfl, crashed']
  rfl

end Store

/-! ## Frames -/

/-- What every step and every change of the weather keeps is kept by a run that asks only such
questions. -/
theorem run_keeps (Kept : World → World → Prop) {P : Step → Prop} (refl : ∀ w, Kept w w)
    (trans : ∀ {u v w}, Kept u v → Kept v w → Kept u w) (weather : ∀ w y, Kept w (w.under y))
    (step : ∀ q w, P q → Kept w (w.answer q).2) {f : Flow α} (h : f.AsksOnly P) (x : Scene) :
    Kept x.world (x.run f).2.world := by
  induction h generalizing x with
  | done a => exact refl x.world
  | crash c => exact refl x.world
  | @ask q next kind _ ih =>
    have first : Kept x.world (x.answer q).2.world :=
      trans (weather x.world (x.sky 0)) (step q _ kind)
    rw [run_ask]
    generalize x.answer q = result at first ⊢
    rcases result with ⟨c | r, x'⟩
    · exact first
    · exact trans first (ih r x')

/-- A run keeps the history of the store. -/
theorem continues_run (f : Flow α) (x : Scene) :
    x.world.store.Continues (x.run f).2.world.store :=
  run_keeps (fun w w' => w.store.Continues w'.store) (fun w => .refl w.store) (fun h k => h.trans k)
    (fun w _ => .refl w.store) (fun q w _ => World.continues_answer q w) (.any f) x

/-- A run of steps does not open or close the queue. -/
theorem listening_run (f : Flow α) (x : Scene) :
    (x.run f).2.world.listening = x.world.listening :=
  run_keeps (fun w w' => w'.listening = w.listening) (fun _ => rfl) (fun h k => k.trans h)
    (fun _ _ => rfl) (fun q w _ => World.listening_answer q w) (.any f) x

/-- A quiet run announces nothing. -/
theorem queue_of_quiet {f : Flow α} (quiet : f.AsksOnly fun q => q.quiet = true) (x : Scene) :
    (x.run f).2.world.queue = x.world.queue :=
  run_keeps (fun w w' => w'.queue = w.queue) (fun _ => rfl) (fun h k => k.trans h) (fun _ _ => rfl)
    (fun q w kind => by rw [World.queue_answer, Step.events_of_quiet kind]; simp) quiet x

end Scene

end ApprovalDesk
