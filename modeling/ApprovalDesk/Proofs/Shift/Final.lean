import ApprovalDesk.Proofs.Shift.Complete
import ApprovalDesk.Proofs.Shift.Records
import ApprovalDesk.Proofs.Token.Check

/-!
# Decisions are final

Once a decision has been carried out, its request is closed (`Store.Closed`): the record stays decided,
and the token that belongs to it stays used. Whoever asks again is told how the request was decided if
they supply the string of the token, or decide in the panel, and is turned away otherwise. As the token
is used, nobody asks how old it is, so the answers are the same at every time of the clock.
-/

namespace ApprovalDesk

set_option autoImplicit false

open ApprovalDesk.Text ApprovalDesk.Time ApprovalDesk.Workflow

/-- The call of the receipt carried out the decision `d` about the request `id`. -/
inductive Receipt.Decides (id : String) (d : Decision) : Receipt → Prop where
  | link (supplied : String) (after : Request) (store : Store) :
      Decides id d ⟨.process id supplied d, .ok (.decided (.ok (.processed after))), store⟩
  | panel (adminId : String) (after : Request) (store : Store) :
      Decides id d ⟨.processViaPanel id d adminId, .ok (.decided (.ok (.processed after))), store⟩

/-- The answer to a call about a request that has been decided; `secret` is the string of its token. -/
inductive Call.Replays (id secret : String) (status : Status) : Call → Answer → Prop where
  | process (d : Decision) : Replays id secret status (.process id secret d)
      (.decided (.ok (.alreadyProcessed status)))
  | inspect : Replays id secret status (.inspect id secret)
      (.inspected (.ok (.alreadyProcessed status)))
  | stranger_process {supplied : String} (other : supplied ≠ secret) (d : Decision) :
      Replays id secret status (.process id supplied d) (.decided (.error .forbidden))
  | stranger_inspect {supplied : String} (other : supplied ≠ secret) :
      Replays id secret status (.inspect id supplied) (.inspected (.error .forbidden))
  | panel {adminId : String} (named : isBlankText adminId = false) (d : Decision) :
      Replays id secret status (.processViaPanel id d adminId)
        (.decided (.ok (.alreadyProcessed status)))

/-! ## Closed requests -/

namespace Store

/-- The request is on record as decided, and its token as used. -/
structure Closed (s : Store) (id : String) (status : Status) (t : Token) : Prop where
  request : ∃ r, s.requests.find? id = some r ∧ r.status = status
  terminal : status.isTerminal = true
  token : s.tokens.find? id = some t
  used : t.used = true

namespace Closed

variable {s s' : Store} {id : String} {status : Status} {t : Token}

/-- A closed request stays closed, and its token stays as it is. -/
theorem later (closed : s.Closed id status t) (goes_on : s.Continues s') : s'.Closed id status t where
  request := by
    obtain ⟨r, found, decided⟩ := closed.request
    obtain ⟨r', found', known⟩ := goes_on.requests id r found
    exact ⟨r, by rw [found', known.final (decided ▸ closed.terminal)], decided⟩
  terminal := closed.terminal
  token := by
    obtain ⟨t', found, known⟩ := goes_on.tokens id t closed.token
    rw [found, known.spent closed.used]
  used := closed.used

/-- The store refuses to decide a closed request, whatever comes with the decision. -/
theorem answer_commit (closed : s.Closed id status t) (d : Decision) (a : Actor) (g : Option Guard)
    (now : Instant) :
    s.answer (.commit id d a g now) = .ok (.ok (.refused (.alreadyProcessed status)), s) := by
  obtain ⟨r, found, rfl⟩ := closed.request
  rw [answer, commit, found, plan, if_pos closed.terminal]
  rfl

end Closed

/-- A decision closes a request that owns a token. -/
theorem closed_of_decided {s : Store} {id : String} {t : Token}
    (owned : s.tokens.find? id = some t) (r : Request) (d : Decision) (a : Actor) (now : Instant) :
    ((Deed.decided id (r.decided d a now) now).store s).Closed id d.target (t.markUsed now) where
  request := ⟨_, Table.find?_insert_self .., r.decided_status d a now⟩
  terminal := by cases d <;> rfl
  token := by
    rw [Deed.store, Table.find?_modify, if_pos rfl, owned]
    rfl
  used := t.markUsed_used now

end Store

/-! ## Asking again -/

namespace Scene

variable {α β : Type} {x : Scene}

/-- The flow comes to a value, the store is left as it was, and it is still up. -/
def Yields (x : Scene) (f : Flow α) (a : α) : Prop :=
  ∃ x', x.run f = (.ok a, x') ∧ x'.world.store = x.world.store ∧ x'.Calm

theorem yields_done (calm : x.Calm) (a : α) : x.Yields (.done a : Flow α) a := ⟨x, rfl, rfl, calm⟩

theorem Yields.bind {f : Flow α} {g : α → Flow β} {a : α} {b : β} (first : x.Yields f a)
    (second : ∀ x', x'.world.store = x.world.store → Calm x' → x'.Yields (g a) b) :
    x.Yields (f >>= g) b := by
  obtain ⟨x', run, same, calm⟩ := first
  obtain ⟨x'', rest, same', calm'⟩ := second x' same calm
  exact ⟨x'', (run_bind_ok run).trans rest, same'.trans same, calm'⟩

theorem yields_readClock {next : Instant → Flow α} {a : α} (calm : x.Calm)
    (rest : ∀ now x', x'.world.store = x.world.store → Calm x' → x'.Yields (next now) a) :
    x.Yields (.ask .readClock next) a :=
  rest (x.sky 0).now ⟨x.world.under (x.sky 0), fun n => x.sky (n + 1)⟩ rfl fun n => calm (n + 1)

/-- A call to the store that changes nothing. -/
theorem yields_store {call : StoreCall} {reply : Except StoreError call.Result}
    {next : Except StoreError call.Result → Flow α} {a : α} (calm : x.Calm)
    (answered : x.world.store.answer call = .ok (reply, x.world.store))
    (rest : ∀ x', x'.world.store = x.world.store → Calm x' → x'.Yields (next reply) a) :
    x.Yields (.ask (.store call) next) a := by
  have stored := rest (x.stored x.world.store) rfl fun n => calm (n + 1)
  unfold Yields at stored ⊢
  rw [run_ask, answer_store_up (calm 0) answered]
  exact stored

section Closed

variable {id : String} {status : Status} {t : Token}

/-- The token of a closed request is spent, at whatever time of the clock. -/
theorem yields_check (calm : x.Calm) (closed : x.world.store.Closed id status t) (ttl : Int)
    (supplied : String) :
    x.Yields (check ttl id supplied) (if supplied = t.secret then .spent else .mismatch) := by
  have found : x.world.store.answer (.findToken id) = .ok (.ok (some t), x.world.store) := by
    rw [Store.answer, closed.token]
  rw [check_steps]
  refine yields_store calm found fun x₁ _ calm₁ => yields_readClock calm₁ fun now x₂ _ calm₂ => ?_
  by_cases own : supplied = t.secret
  · rw [if_pos own, Token.check_of_used ttl now own.symm closed.used]
    exact yields_done calm₂ _
  · rw [if_neg own, Token.check_of_mismatch ttl now (Ne.symm own)]
    exact yields_done calm₂ _

/-- What an inspection of a closed request finds. -/
theorem yields_inspect (calm : x.Calm) (closed : x.world.store.Closed id status t) (ttl : Int)
    (supplied : String) : x.Yields (inspect ttl id supplied).run
      (if supplied = t.secret then .ok (.alreadyProcessed status) else .error .forbidden) := by
  rw [inspect_steps]
  refine (yields_check calm closed ttl supplied).bind fun x' same calm' => ?_
  by_cases own : supplied = t.secret
  · obtain ⟨r, found, decided⟩ := closed.request
    have shown : x'.world.store.answer (.findRequest id) = .ok (.ok (some r), x'.world.store) := by
      rw [Store.answer, same, found]
    have told : inspected .spent (.ok (some r)) = .ok (.alreadyProcessed status) := by
      rw [inspected, decided, if_pos closed.terminal]
    rw [if_pos own, if_pos own]
    refine yields_store calm' shown fun x'' _ calm'' => ?_
    rw [told]
    exact yields_done calm'' _
  · rw [if_neg own, if_neg own]
    exact yields_done calm' _

theorem yields_process (calm : x.Calm) (closed : x.world.store.Closed id status t) (ttl : Int)
    (supplied : String) (d : Decision) : x.Yields (process ttl id supplied d).run
      (if supplied = t.secret then .ok (.alreadyProcessed status) else .error .forbidden) := by
  rw [process_steps]
  refine (yields_inspect calm closed ttl supplied).bind fun x' _ calm' => ?_
  by_cases own : supplied = t.secret
  · rw [if_pos own, if_pos own]
    exact yields_done calm' _
  · rw [if_neg own, if_neg own]
    exact yields_done calm' _

theorem yields_processViaPanel (calm : x.Calm) (closed : x.world.store.Closed id status t)
    (d : Decision) {adminId : String} (named : isBlankText adminId = false) :
    x.Yields (processViaPanel id d adminId).run (.ok (.alreadyProcessed status)) := by
  rw [isBlankText] at named
  rw [processViaPanel_steps, named, if_neg Bool.false_ne_true, commit_steps]
  refine yields_readClock calm fun now x₁ same calm₁ => ?_
  have refused := (same ▸ closed).answer_commit d (.panel (trim adminId)) none now
  exact yields_store calm₁ refused fun x₂ _ calm₂ => yields_done calm₂ _

/-- Whoever asks about a closed request gets the answer that stands for it. -/
theorem answer_of_replays {s : Settings} {c : Call} {a : Answer} (replays : c.Replays id t.secret status a)
    (calm : x.Calm) (closed : x.world.store.Closed id status t) :
    (x.run (c.flow s)).1 = .ok a := by
  have answered {α : Type} {f : Flow α} {b : α} (g : α → Answer) (yields : x.Yields f b) :
      (x.run (g <$> f)).1 = .ok (g b) := by
    obtain ⟨x', run, -⟩ := yields
    rw [run_map, run]
    rfl
  cases replays with
  | process d =>
    have yields := yields_process calm closed s.tokenTtl t.secret d
    rw [if_pos rfl] at yields
    exact answered .decided yields
  | inspect =>
    have yields := yields_inspect calm closed s.tokenTtl t.secret
    rw [if_pos rfl] at yields
    exact answered .inspected yields
  | @stranger_process supplied other d =>
    have yields := yields_process calm closed s.tokenTtl supplied d
    rw [if_neg other] at yields
    exact answered .decided yields
  | @stranger_inspect supplied other =>
    have yields := yields_inspect calm closed s.tokenTtl supplied
    rw [if_neg other] at yields
    exact answered .inspected yields
  | panel named d => exact answered .decided (yields_processViaPanel calm closed d named)

end Closed

end Scene

/-- Asking again is a call to the workflow, and its answer tells of no deed. -/
theorem Call.Replays.modest {id secret : String} {status : Status} {c : Call} {a : Answer}
    (replays : c.Replays id secret status a) : c.isService = true ∧ a.claims = false := by
  cases replays <;> exact ⟨rfl, rfl⟩

/-! ## Shifts -/

namespace Shift

/-- Every decision that was carried out has closed its request. -/
def Final (x : Shift) : Prop :=
  ∀ e ∈ x.receipts, ∀ id d, e.Decides id d → ∃ t, x.store.Closed id d.target t

/-- Every request on record owns a token. -/
theorem Complete.owned {x : Shift} (complete : Complete .empty x) {id : String} {r : Request}
    (found : x.store.requests.find? id = some r) : ∃ t, x.store.tokens.find? id = some t := by
  obtain ⟨e, member, r₀, answer, rfl⟩ := complete.requests id r found rfl
  obtain ⟨-, t, token, -⟩ := complete.submitted e member r₀ answer
  exact ⟨t, token⟩

namespace Final

variable {x y : Shift}

theorem earlier (h : Final x) (goes_on : x.store.Continues y.store) :
    ∀ e ∈ x.receipts, ∀ id d, e.Decides id d → ∃ t, y.store.Closed id d.target t := by
  intro e member id d decides
  obtain ⟨t, closed⟩ := h e member id d decides
  exact ⟨t, closed.later goes_on⟩

/-- One receipt more. -/
theorem answered (h : Final x) {e : Receipt} (receipts : y.receipts = x.receipts ++ [e])
    (goes_on : x.store.Continues y.store)
    (last : ∀ id d, e.Decides id d → ∃ t, y.store.Closed id d.target t) : Final y := by
  intro e' member id d decides
  rw [receipts] at member
  rcases List.mem_append.1 member with before | now
  · exact h.earlier goes_on e' before id d decides
  · rw [List.mem_singleton.1 now] at decides
    exact last id d decides

end Final

/-- A call that decides a request closes it, if every request owns a token. -/
theorem closed_of_explains {s : Store} {deed : Deed} {c : Call} {answer : Except Crash Answer}
    {store : Store} (explains : deed.Explains s c answer)
    (owned : ∀ {id r}, s.requests.find? id = some r → ∃ t, s.tokens.find? id = some t)
    {id : String} {d : Decision} (decides : Receipt.Decides id d ⟨c, answer, store⟩) :
    ∃ t, (deed.store s).Closed id d.target t := by
  cases decides with
  | link | panel =>
    cases explains with
    | nothing modest => cases modest _ rfl
    | decided puts found =>
      cases puts
      obtain ⟨t, token⟩ := owned found
      exact ⟨_, Store.closed_of_decided token _ _ _ _⟩

/-- Every job leaves the requests closed that were decided. -/
theorem Final.job {x : Shift} (h : Final x) (complete : Complete .empty x) (s : Settings) (j : Job) :
    Final (x.job s j) := by
  have goes_on := x.continues_job s j
  have outcome := x.job_outcome s j
  generalize x.job s j = y at goes_on outcome ⊢
  cases outcome with
  | served service explains store =>
    refine h.answered rfl goes_on fun id d decides => ?_
    rw [Shift.store, store]
    exact closed_of_explains explains complete.owned decides
  | told => exact h.answered rfl goes_on fun id d decides => by cases decides
  | idle => exact h
  | dispatched => exact h.earlier goes_on

/-- At the end of a shift every decision has closed its request. -/
theorem final_jobs (s : Settings) (w : World) (js : List Job) :
    Final ((opening { w with store := .empty }).jobs s js) := by
  have start : Complete .empty (opening { w with store := .empty }) ∧
      Final (opening { w with store := .empty }) :=
    ⟨.opening { w with store := .empty }, fun e member => by cases member⟩
  have step : ∀ x : Shift, ∀ j ∈ js, Complete .empty x ∧ Final x →
      Complete .empty (x.job s j) ∧ Final (x.job s j) :=
    fun x j _ h => ⟨h.1.job s j, h.2.job h.1 s j⟩
  exact (jobs_keep (fun x => Complete .empty x ∧ Final x) step start).2

/-- A shift keeps the history of the store. -/
theorem continues_jobs (s : Settings) (x : Shift) (js : List Job) :
    x.store.Continues (x.jobs s js).store :=
  jobs_keep (fun y => x.store.Continues y.store) (fun y j _ h => h.trans (y.continues_job s j))
    (.refl x.store)

/-- **A decision is final**, in every shift that begins with an empty store. However the shift goes on,
and whatever the clock shows, whoever asks again is told the decision if they supply the string of the
token or decide in the panel, is turned away if they do not, and changes nothing. -/
theorem decisions_are_final (s : Settings) (w : World) (js more : List Job) {id : String}
    {d : Decision} {e : Receipt}
    (made : e ∈ ((opening { w with store := .empty }).jobs s js).receipts) (decides : e.Decides id d) :
    let x := ((opening { w with store := .empty }).jobs s js).jobs s more
    ∃ t, x.store.tokens.find? id = some t ∧
      ∀ (c : Call) (a : Answer), c.Replays id t.secret d.target a →
        ∀ sky : Sky, (∀ n, (sky n).storeUp = true) →
          let done := Scene.run (c.flow s) ⟨x.world, sky⟩
          done.1 = .ok a ∧ done.2.world.store = x.store ∧ done.2.world.queue = x.world.queue := by
  intro x
  obtain ⟨t, closed⟩ := final_jobs s w js e made id d decides
  have closed : x.store.Closed id d.target t := closed.later (continues_jobs s _ more)
  refine ⟨t, closed.token, fun c a replays sky up => ?_⟩
  have answer : (Scene.run (c.flow s) ⟨x.world, sky⟩).1 = .ok a :=
    Scene.answer_of_replays replays up closed
  obtain ⟨service, modest⟩ := replays.modest
  refine ⟨answer, Scene.unchanged_of_modest s service fun b same => ?_⟩
  rw [answer] at same
  cases same
  exact modest

/-- Ann's request is rejected in the panel. Whoever follows the link to approve it later, long after the
token has expired, is told of the rejection. -/
theorem rejection_is_final :
    let x := (opening (World.quiet .empty ⟨0, 0⟩)).jobs ⟨"", "", 5000, "", none⟩ rejection
    let later : Sky := fun n => { Sky.fair n with now := ⟨1000000, 0⟩ }
    ∃ t, x.store.tokens.find? "00000000-0000-0000-0000-000000000000" = some t ∧
      (Scene.run ((Call.process "00000000-0000-0000-0000-000000000000" t.secret .approve).flow
        ⟨"", "", 5000, "", none⟩) ⟨x.world, later⟩).1 =
          .ok (.decided (.ok (.alreadyProcessed .rejected))) := by
  intro x later
  obtain ⟨t, token, replays⟩ := decisions_are_final ⟨"", "", 5000, "", none⟩
    (World.quiet .empty ⟨0, 0⟩) rejection []
    (List.mem_cons_of_mem _ List.mem_cons_self)
    (.panel (d := .reject "no receipt") " Bob " _ _)
  exact ⟨t, token, (replays _ _ (.process .approve) later fun _ => rfl).1⟩

end Shift

end ApprovalDesk
