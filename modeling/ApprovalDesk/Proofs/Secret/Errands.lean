import ApprovalDesk.Proofs.Secret.Flows

/-!
# The token reaches only the administrator

A script is a row of errands, each in the weather of its time: calls, requests over HTTP, and turns of
the dispatcher. Run twice from an empty store with the same identifiers and under the same skies but
with different random bytes, a script that presents no token comes to the same results and to the same
records, the secrets of the tokens apart; and the letters are the same, but for the links in those that
ask the administrator to decide (`token_reaches_only_administrator`).
-/

namespace ApprovalDesk

set_option autoImplicit false

open ApprovalDesk.Dialogue

/-- Something that is asked of the desk. -/
inductive Errand where
  | call (c : Call)
  | http (r : Http.Request)
  /-- The dispatcher takes the first event from the queue, if there is one, and handles it. -/
  | dispatch

/-- What an errand comes to. -/
inductive Errand.Result where
  | answer (a : Except Crash Answer)
  | response (r : Except Crash Http.Response)
  | report (r : Except Crash Dispatch.Report)
  /-- There was no event. -/
  | nothing

/-- No token is presented. -/
def Errand.Tokenless : Errand → Prop
  | .call c => c.isTokenless = true
  | .http r => r.Tokenless
  | .dispatch => True

namespace World

/-- A world in which nothing has happened yet. -/
def blank (ids : Nat → Uuid) (secrets : Nat → RandomBlock) (listening : Bool) : World :=
  { quiet .empty ⟨0, 0⟩ with ids, secrets, listening }

/-- What an errand comes to, and the world after it. -/
def errand (s : Settings) (w : World) (sky : Sky) : Errand → Errand.Result × World
  | .call c =>
    let done := Scene.run (c.flow s) ⟨w, sky⟩
    (.answer done.1, done.2.world)
  | .http r =>
    let done := Scene.run (Http.handle s.tokenTtl r) ⟨w, sky⟩
    (.response done.1, done.2.world)
  | .dispatch =>
    match w.queue with
    | [] => (.nothing, w)
    | e :: rest =>
      let done := Scene.run (Dispatch.handle s e) ⟨{ w with queue := rest }, sky⟩
      (.report done.1, done.2.world)

/-- What the errands of a script come to, and the world after them. -/
def errands (s : Settings) (w : World) : List (Errand × Sky) → List Errand.Result × World
  | [] => ([], w)
  | (e, sky) :: script =>
    let first := w.errand s sky e
    let rest := first.2.errands s script
    (first.1 :: rest.1, rest.2)

variable {s : Settings} {w w' : World} {sky : Sky}

/-- Alike flows in twin worlds, under the same sky, come to the same result. -/
theorem Twins.run {α : Type} {f g : Flow α} (h : w.Twins s w') (impartial : ∀ n, (sky n).Impartial s)
    (alike : Alike (Step.Twins s) Eq f g) :
    (Scene.run f ⟨w, sky⟩).1 = (Scene.run g ⟨w', sky⟩).1 ∧
      (Scene.run f ⟨w, sky⟩).2.world.Twins s (Scene.run g ⟨w', sky⟩).2.world := by
  have twins : Scene.Twins s ⟨w, sky⟩ ⟨w', sky⟩ := ⟨h, rfl, impartial⟩
  obtain ⟨result, scenes⟩ := (Scene.ends_run alike twins).eq
  exact ⟨result, scenes.world⟩

/-- An errand without a token comes to the same in twin worlds and leaves twin worlds behind. -/
theorem Twins.errand {e : Errand} (h : w.Twins s w') (tokenless : e.Tokenless)
    (impartial : ∀ n, (sky n).Impartial s) :
    (w.errand s sky e).1 = (w'.errand s sky e).1 ∧
      (w.errand s sky e).2.Twins s (w'.errand s sky e).2 := by
  cases e with
  | call c =>
    obtain ⟨answer, twins⟩ := h.run impartial (Call.flow_alike tokenless)
    exact ⟨congrArg Errand.Result.answer answer, twins⟩
  | http r =>
    obtain ⟨response, twins⟩ := h.run impartial (Http.handle_alike tokenless)
    exact ⟨congrArg Errand.Result.response response, twins⟩
  | dispatch =>
    have queued := h.queue
    unfold World.errand
    generalize w.queue = q at queued
    generalize w'.queue = q' at queued
    cases queued with
    | nil => exact ⟨rfl, h⟩
    | @cons e e' rest rest' event others =>
      have left : World.Twins s { w with queue := rest } { w' with queue := rest' } :=
        { h with queue := others }
      obtain ⟨report, twins⟩ := left.run impartial (Dispatch.handle_alike event)
      exact ⟨congrArg Errand.Result.report report, twins⟩

/-- A script without a token comes to the same in twin worlds and leaves twin worlds behind. -/
theorem Twins.errands {script : List (Errand × Sky)} (h : w.Twins s w')
    (tokenless : ∀ step ∈ script, step.1.Tokenless)
    (impartial : ∀ step ∈ script, ∀ n, (step.2 n).Impartial s) :
    (w.errands s script).1 = (w'.errands s script).1 ∧
      (w.errands s script).2.Twins s (w'.errands s script).2 := by
  induction script generalizing w w' with
  | nil => exact ⟨rfl, h⟩
  | cons step script ih =>
    obtain ⟨result, twins⟩ := h.errand (tokenless step List.mem_cons_self)
      (impartial step List.mem_cons_self)
    obtain ⟨results, last⟩ := ih twins (fun t later => tokenless t (List.mem_cons_of_mem _ later))
      fun t later => impartial t (List.mem_cons_of_mem _ later)
    refine ⟨?_, last⟩
    exact List.cons_eq_cons.2 ⟨result, results⟩

/-- **The token reaches only the administrator.** Two runs of a script that presents no token, from an
empty store, under the same skies and with the same identifiers, whatever the random bytes: the results
are the same, and so is all that is on record but for the secrets of the tokens, which operators are not
shown; the letters are the same but for those to the administrator about new requests, and these differ
in the addresses of their two links only. -/
theorem token_reaches_only_administrator (s : Settings) (ids : Nat → Uuid)
    (secrets secrets' : Nat → RandomBlock) (listening : Bool) {script : List (Errand × Sky)}
    (tokenless : ∀ step ∈ script, step.1.Tokenless)
    (impartial : ∀ step ∈ script, ∀ n, (step.2 n).Impartial s) :
    let run := (blank ids secrets listening).errands s script
    let run' := (blank ids secrets' listening).errands s script
    run.1 = run'.1 ∧
      run.2.store.requests = run'.2.store.requests ∧
      run.2.store.notifications = run'.2.store.notifications ∧
      run.2.store.profiles = run'.2.store.profiles ∧
      run.2.store.audit = run'.2.store.audit ∧
      (∀ id, (run.2.store.tokens.find? id).map Token.withoutSecret =
        (run'.2.store.tokens.find? id).map Token.withoutSecret) ∧
      (∀ id, (run.2.store.tokens.find? id).map Token.redacted =
        (run'.2.store.tokens.find? id).map Token.redacted) ∧
      List.Forall₂ (Letter.Twins s) run.2.outbox run'.2.outbox := by
  have start : World.Twins s (blank ids secrets listening) (blank ids secrets' listening) :=
    ⟨.refl .empty, rfl, rfl, rfl, .nil, .nil⟩
  obtain ⟨results, twins⟩ := start.errands tokenless impartial
  exact ⟨results, twins.store.requests, twins.store.notifications, twins.store.profiles,
    twins.store.audit, twins.store.tokens, twins.store.redacted, twins.outbox⟩

/-- A desk whose links lead to the host `h`. -/
def plainDesk : Settings := ⟨"desk@example.org", "admin@example.org", 604800000, "https://h", none⟩

/-- Ann submits a request, the administrator is asked, somebody looks at the request, it is approved in
the panel, and what follows from that is done. -/
def annsErrands : List (Errand × Sky) := [
  (.call (.submit ⟨"u1", "Ann", "ann@example.org", none, none⟩), .fair),
  (.dispatch, .fair),
  (.http ⟨"GET", "/api/certifications/00000000-0000-0000-0000-000000000000", [], []⟩, .fair),
  (.call (.processViaPanel "00000000-0000-0000-0000-000000000000" .approve "root"), .fair),
  (.dispatch, .fair)]

/-- What Ann's errands come to when this byte is all that is drawn for secrets. -/
def annsMorning (random : UInt8) : List Errand.Result × World :=
  (blank (quiet .empty ⟨0, 0⟩).ids
    (fun _ => ⟨List.replicate 32 random, List.length_replicate⟩) true).errands plainDesk annsErrands

theorem annsMorning_without_token :
    (annsMorning 0).2.outbox.length = 3 ∧ (annsMorning 0).2.store.audit.length = 1 ∧
      (annsMorning 0).1 = (annsMorning 1).1 ∧
      (∀ id, ((annsMorning 0).2.store.tokens.find? id).map Token.redacted =
        ((annsMorning 1).2.store.tokens.find? id).map Token.redacted) ∧
      List.Forall₂ (Letter.Twins plainDesk) (annsMorning 0).2.outbox (annsMorning 1).2.outbox := by
  have tokenless : ∀ step ∈ annsErrands, step.1.Tokenless := by
    have looking : Http.Route.ofPath? (Http.Request.path
        ⟨"GET", "/api/certifications/00000000-0000-0000-0000-000000000000", [], []⟩) =
        some (.submission "00000000-0000-0000-0000-000000000000".toList) := by decide +kernel
    simp only [annsErrands, List.forall_mem_cons]
    refine ⟨rfl, trivial, fun place => ?_, rfl, trivial, List.forall_mem_nil _⟩
    rw [looking] at place
    rcases place with place | place <;> cases place
  have impartial : ∀ step ∈ annsErrands, ∀ n, (step.2 n).Impartial plainDesk := by
    have fair (n : Nat) : (Sky.fair n).Impartial plainDesk := fun _ _ _ => rfl
    simp only [annsErrands, List.forall_mem_cons]
    exact ⟨fair, fair, fair, fair, fair, List.forall_mem_nil _⟩
  have ends : (annsMorning 0).2.outbox.length = 3 ∧ (annsMorning 0).2.store.audit.length = 1 := by
    decide +kernel
  refine ⟨ends.1, ends.2, ?_⟩
  unfold annsMorning
  obtain ⟨results, -, -, -, -, -, redacted, letters⟩ :=
    token_reaches_only_administrator plainDesk _ _ _ true tokenless impartial
  exact ⟨results, redacted, letters⟩

end World

end ApprovalDesk
