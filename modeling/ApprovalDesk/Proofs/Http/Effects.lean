import ApprovalDesk.Proofs.Http.Steps
import ApprovalDesk.Proofs.Json.Stored
import ApprovalDesk.Proofs.Token.Check
import ApprovalDesk.Proofs.Weather.Deeds

/-!
# Answers and effects

What a request over HTTP has changed can be read off its answer. A handler has at most one call to the
store carried out, a submission that is answered 201 or a decision that is answered 200, and everything
else leaves records and queue as they were. The store may go down, and come back, before any of the
steps of a handler; a handler that is cut short has changed nothing either.
-/

namespace ApprovalDesk

set_option autoImplicit false

open ApprovalDesk.Text ApprovalDesk.Time ApprovalDesk.Workflow
open ApprovalDesk.Flow (AllOrNothing)

/-- What a decision leads to is not pending. -/
theorem Request.decided_not_pending (r : Request) (d : Decision) (a : Actor) (now : Instant) :
    (r.decided d a now).status ≠ .pending := by
  rw [decided_status]
  cases d <;> exact Status.noConfusion

/-- The record of a decided request tells which decision it was. -/
theorem Request.decision_of_decided {r : Request} {d d' : Decision} {a : Actor} {now now' : Instant}
    (same : r.decided d a now = r.decided d' a now') : d' = d := by
  have status : d.target = d'.target := by
    have sameStatus := congrArg Request.status same
    rwa [decided_status, decided_status] at sameStatus
  cases d with
  | approve =>
    cases d' with
    | approve => rfl
    | reject reason' => cases status
  | reject reason =>
    cases d' with
    | approve => cases status
    | reject reason' =>
      have sameReason : some reason = some reason' := congrArg Request.rejectionReason same
      cases sameReason
      rfl

/-! ## What can become of a world -/

namespace World

/-- No record has changed, and nothing was announced. -/
structure Unchanged (v w : World) : Prop where
  store : w.store = v.store
  queue : w.queue = v.queue

/-- A pending request was put on record under a new id, together with its unused token, and both were
announced. Nothing else has changed. -/
inductive Admits (v : World) (q : Request) (w : World) : Prop where
  | intro {t : Token} (pending : q.status = .pending) (own : t.requestId = q.id)
      (unused : t.used = false) (newRequest : v.store.requests.find? q.id = none)
      (newToken : v.store.tokens.find? q.id = none)
      (store : w.store = { v.store with
        requests := v.store.requests.insert q.id q
        tokens := v.store.tokens.insert q.id t })
      (queue : w.queue = v.queue ++ if v.listening then [.submitted q t.secret] else [])

/-- A pending request was decided through the link, its unused token was used up, and the change was
announced. Nothing else has changed. -/
inductive Decides (v : World) (id supplied : String) (d : Decision) (w : World) : Prop where
  | intro {r : Request} {t : Token} {now : Instant} (found : v.store.requests.find? id = some r)
      (pending : r.status = .pending) (token : v.store.tokens.find? id = some t)
      (own : t.secret = supplied) (unused : t.used = false)
      (store : w.store = { v.store with
        requests := v.store.requests.insert id (r.decided d .emailLink now)
        tokens := v.store.tokens.insert id { t with used := true, usedAt := some now } })
      (queue : w.queue = v.queue ++ if v.listening then
        [.statusChanged ⟨.pending, r.decided d .emailLink now⟩] else [])

variable {v w : World} {q q' : Request}

theorem Admits.newRequest (admits : v.Admits q w) : v.store.requests.find? q.id = none := by
  cases admits with
  | intro _ _ _ newRequest => exact newRequest

theorem Admits.pending (admits : v.Admits q w) : q.status = .pending := by
  cases admits with
  | intro pending => exact pending

/-- What is on record after a request was admitted. -/
theorem Admits.requests (admits : v.Admits q w) (id : String) :
    w.store.requests.find? id = if id = q.id then some q else v.store.requests.find? id := by
  cases admits with
  | intro _ _ _ _ _ store =>
    rw [store]
    exact Table.find?_insert ..

theorem Admits.stored (admits : v.Admits q w) : w.store.requests.find? q.id = some q := by
  rw [admits.requests, if_pos rfl]

/-- To admit a request is a change. -/
theorem Admits.changed (admits : v.Admits q w) : ¬ v.Unchanged w := by
  intro same
  have absent : w.store.requests.find? q.id = none := by
    rw [same.store]
    exact admits.newRequest
  rw [admits.stored] at absent
  cases absent

/-- Only one request is admitted. -/
theorem Admits.unique (admits : v.Admits q w) (admits' : v.Admits q' w) : q' = q := by
  have stored := admits'.stored
  rw [admits.requests, admits'.newRequest] at stored
  split at stored <;> cases stored
  rfl

section Decides

variable {id id' supplied supplied' : String} {d d' : Decision}

/-- What is on record after a request was decided. -/
theorem Decides.requests (decides : v.Decides id supplied d w) :
    ∃ r now, v.store.requests.find? id = some r ∧ r.status = .pending ∧
      ∀ k, w.store.requests.find? k =
        if k = id then some (r.decided d .emailLink now) else v.store.requests.find? k := by
  cases decides with
  | @intro r t now found pending _ _ _ store =>
    refine ⟨r, now, found, pending, fun k => ?_⟩
    rw [store]
    exact Table.find?_insert ..

/-- To decide a request is a change. -/
theorem Decides.changed (decides : v.Decides id supplied d w) : ¬ v.Unchanged w := by
  intro same
  obtain ⟨r, now, found, pending, after⟩ := decides.requests
  have decided := after id
  rw [if_pos rfl, same.store, found] at decided
  apply r.decided_not_pending d .emailLink now
  rw [← Option.some.inj decided]
  exact pending

/-- To decide a request admits none. -/
theorem Decides.not_admits (decides : v.Decides id supplied d w) : ¬ v.Admits q w := by
  intro admits
  obtain ⟨r, now, -, -, after⟩ := decides.requests
  have stored := after q.id
  rw [admits.stored, admits.newRequest] at stored
  split at stored <;> cases stored
  exact r.decided_not_pending d .emailLink now admits.pending

/-- Who decides supplies the string on record. -/
theorem Decides.secret (decides : v.Decides id supplied d w) :
    (v.store.tokens.find? id).map (·.secret) = some supplied := by
  cases decides with
  | intro _ _ token own =>
    rw [token, ← own]
    rfl

/-- Only one decision is carried out, about one request. -/
theorem Decides.unique (decides : v.Decides id supplied d w) (decides' : v.Decides id' supplied' d' w) :
    id' = id ∧ supplied' = supplied ∧ d' = d := by
  obtain ⟨r, now, found, -, after⟩ := decides.requests
  obtain ⟨r', now', found', pending', after'⟩ := decides'.requests
  by_cases own : id' = id
  · subst own
    have sameSecret := decides'.secret.symm.trans decides.secret
    obtain rfl : r = r' := Option.some.inj (found.symm.trans found')
    have sameRecord := (after id').symm.trans (after' id')
    rw [if_pos rfl, if_pos rfl] at sameRecord
    exact ⟨rfl, Option.some.inj sameSecret, Request.decision_of_decided (Option.some.inj sameRecord)⟩
  · have kept := after id'
    rw [if_neg own, found', after', if_pos rfl] at kept
    have pending : (r'.decided d' .emailLink now').status = .pending := by
      rw [Option.some.inj kept, pending']
    exact absurd pending (r'.decided_not_pending d' .emailLink now')

end Decides

end World

namespace Http

/-! ## What a request asks for -/

/-- The decision that a request asks for, by its method, its path and the form in its body. -/
inductive Request.Asks (r : Request) : Decision → Prop where
  | approve (method : r.method = "GET" ∨ r.method = "HEAD")
      (path : Route.ofPath? r.path = some .approval) : Asks r .approve
  | reject (method : r.method = "POST") (path : Route.ofPath? r.path = some .rejection)
      (reason : isBlankText (reasonOf r) = false) : Asks r (.reject (trim (reasonOf r)))

/-- The answer to a request tells what the store carried out for it, and what the store replied. -/
inductive Request.Tells (ttl : Int) (r : Request) :
    Response → (call : StoreCall) → Except StoreError call.Result → Prop where
  | submitted {data : Submission} {id secret : String} {now later : Instant}
      (method : r.method = "POST") (path : Route.ofPath? r.path = some .submissions)
      (body : submissionOf? r = some data) :
      Tells ttl r (.json 201 (Request.new id data now).toJson)
        (.insertSubmission (Request.new id data now) (Token.new id secret later)) (.ok ())
  | decided {answer : Response} {id supplied : String} {d : Decision} {now : Instant}
      {before : Status} {after : ApprovalDesk.Request} (presents : r.Presents id supplied)
      (asks : r.Asks d) (status : answer.status = 200) :
      Tells ttl r answer (.commit id d .emailLink (some ⟨supplied, ttl⟩) now)
        (.ok (.committed before after))

variable {ttl : Int} {r : Request} {id supplied : String} {d : Decision}

/-- The answer that a decision gets without its body still tells of it. -/
theorem Request.Tells.bodiless {answer : Response} {call : StoreCall}
    {reply : Except StoreError call.Result} (tells : r.Tells ttl answer call reply)
    (head : r.method = "HEAD") : r.Tells ttl answer.bodiless call reply := by
  cases tells with
  | submitted method =>
    rw [head] at method
    exact absurd method (by decide)
  | decided presents asks status => exact .decided presents asks status

/-! ## What each handler does -/

theorem respondFailure_not_created (e : Failure) (format : Format) :
    (respondFailure e format).status ≠ 201 := by
  rw [respondFailure_status]
  exact e.status_ne_created

theorem refuseMethod_not_created (route : Route) (r : Request) : (refuseMethod route r).status ≠ 201 := by
  rw [refuseMethod_status]
  decide

/-- A link that presents nothing is refused before anything is done. -/
theorem withLink_allOrNothing {next : String → String → Flow Response}
    (rest : ∀ id supplied, r.Presents id supplied →
      AllOrNothing (·.status ≠ 201) (r.Tells ttl) (next id supplied)) :
    AllOrNothing (·.status ≠ 201) (r.Tells ttl) (withLink r next) := by
  rcases withLink_cases r next with ⟨id, supplied, presents, followed⟩ | ⟨answer, status, refused⟩
  · rw [followed]
    exact rest id supplied presents
  · rw [refused]
    refine .done ?_
    rw [status]
    decide

/-- A decision is carried out by one call to the store, and answered 200. -/
theorem decide_allOrNothing (presents : r.Presents id supplied) (asks : r.Asks d) :
    AllOrNothing (·.status ≠ 201) (r.Tells ttl) (decide ttl r.format id supplied d) := by
  rw [decide_steps]
  refine ((process_allOrNothing ttl id supplied d).mono ?_ ?_).map
  · rintro (e | outcome) -
    · exact respondFailure_not_created e r.format
    · rw [respondDecision, respondOutcome_status]
      decide
  · rintro result call reply tells
    cases tells with
    | link => exact .decided presents asks (respondOutcome_status ..)

theorem approve_allOrNothing (method : r.method = "GET" ∨ r.method = "HEAD")
    (path : Route.ofPath? r.path = some .approval) :
    AllOrNothing (·.status ≠ 201) (r.Tells ttl) (approve ttl r) :=
  withLink_allOrNothing fun _ _ presents => decide_allOrNothing presents (.approve method path)

theorem reject_allOrNothing (method : r.method = "POST")
    (path : Route.ofPath? r.path = some .rejection) :
    AllOrNothing (·.status ≠ 201) (r.Tells ttl) (reject ttl r) := by
  rw [reject_steps]
  refine withLink_allOrNothing fun id supplied presents => ?_
  cases reason : isBlankText (reasonOf r) with
  | true => exact .done (respondFailure_not_created .reasonRequired r.format)
  | false => exact decide_allOrNothing presents (.reject method path reason)

/-- To be shown the form changes nothing. -/
theorem showRejectionForm_allOrNothing :
    AllOrNothing (·.status ≠ 201) (r.Tells ttl) (showRejectionForm ttl r) := by
  rw [showRejectionForm_steps]
  refine withLink_allOrNothing fun id supplied presents => ?_
  refine (AllOrNothing.of_reads (inspect_reads ttl id supplied) ?_).map
  rintro (e | request | status)
  · exact respondFailure_not_created e r.format
  · exact (by decide : (200 : Nat) ≠ 201)
  · rw [respondInspection, respondAlreadyProcessed_status]
    decide

/-- A submission is stored by one call to the store, and answered 201. -/
theorem submission_allOrNothing (method : r.method = "POST")
    (path : Route.ofPath? r.path = some .submissions) :
    AllOrNothing (·.status ≠ 201) (r.Tells ttl) (submit r) := by
  rw [submit_steps]
  cases body : submissionOf? r with
  | none => exact .done (submissionRequired.status_ne_created)
  | some data =>
    refine ((submit_allOrNothing ttl data).mono ?_ ?_).map
    · rintro (e | request) modest
      · exact e.status_ne_created
      · cases modest
    · rintro result call reply tells
      cases tells with
      | submitted => exact .submitted method path body

theorem showRequest_allOrNothing (segment : List Char) :
    AllOrNothing (·.status ≠ 201) (r.Tells ttl) (showRequest segment) := by
  rw [showRequest_steps]
  cases Utf8.decode? (Percent.decode (Utf8.encodeChars segment)) with
  | none => exact .done (by decide)
  | some id =>
    refine (AllOrNothing.of_reads (find_reads id) ?_).map
    rintro (e | request)
    · exact e.status_ne_created
    · exact (by decide : (200 : Nat) ≠ 201)

theorem showHealth_allOrNothing : AllOrNothing (·.status ≠ 201) (r.Tells ttl) showHealth := by
  refine .look rfl fun answer => .look rfl fun now => .done ?_
  change (if (Health.ofPing answer now).isHealthy then 200 else 503) ≠ 201
  split <;> decide

/-- What a request does that is answered like one for GET. -/
theorem answerGet_allOrNothing {route : Route} (method : r.method = "GET" ∨ r.method = "HEAD")
    (path : Route.ofPath? r.path = some route) :
    AllOrNothing (·.status ≠ 201) (r.Tells ttl) (answerGet ttl r route) := by
  cases route with
  | health => exact showHealth_allOrNothing
  | approval => exact approve_allOrNothing method path
  | rejection => exact showRejectionForm_allOrNothing
  | submission segment => exact showRequest_allOrNothing segment
  | submissions => exact .done (refuseMethod_not_created .submissions r)

theorem answerPost_allOrNothing {route : Route} (method : r.method = "POST")
    (path : Route.ofPath? r.path = some route) :
    AllOrNothing (·.status ≠ 201) (r.Tells ttl) (answerPost ttl r route) := by
  cases route with
  | rejection => exact reject_allOrNothing method path
  | submissions => exact submission_allOrNothing method path
  | health | approval | submission => exact .done (refuseMethod_not_created _ r)

/-- **Every request does one thing or nothing**, whatever its method and its path. -/
theorem handle_allOrNothing (ttl : Int) (r : Request) :
    AllOrNothing (·.status ≠ 201) (r.Tells ttl) (handle ttl r) := by
  cases path : Route.ofPath? r.path with
  | none =>
    rw [handle_nowhere path]
    exact .done (by decide)
  | some route =>
    by_cases get : r.method = "GET"
    · rw [handle_get path get]
      exact answerGet_allOrNothing (Or.inl get) path
    by_cases head : r.method = "HEAD"
    · rw [handle_head path head]
      have asIfGet : AllOrNothing (·.status ≠ 201) (r.Tells ttl) (answerGet ttl r route) :=
        answerGet_allOrNothing (Or.inr head) path
      exact (asIfGet.mono (fun idle => idle) fun tells => tells.bodiless head).map
    by_cases post : r.method = "POST"
    · rw [handle_post path post]
      exact answerPost_allOrNothing post path
    · rw [handle_other path get head post]
      exact .done (refuseMethod_not_created route r)

/-! ## What has become of the world -/

/-- What became of the world goes with the answer to a request, or with there being none. -/
inductive Request.Accounts (r : Request) (v : World) : Except Crash Response → World → Prop where
  | nothing {out : Except Crash Response} {w : World}
      (modest : ∀ answer, out = .ok answer → answer.status ≠ 201) (same : v.Unchanged w) :
      Accounts r v out w
  | admitted {q : ApprovalDesk.Request} {w : World} (method : r.method = "POST")
      (path : Route.ofPath? r.path = some .submissions) (admits : v.Admits q w) :
      Accounts r v (.ok (.json 201 q.toJson)) w
  | decided {answer : Response} {id supplied : String} {d : Decision} {w : World}
      (status : answer.status = 200) (presents : r.Presents id supplied) (asks : r.Asks d)
      (decides : v.Decides id supplied d w) : Accounts r v (.ok answer) w

/-- The one call that the store carried out accounts for all that has changed. -/
theorem Request.Tells.accounts {v w : World} {answer : Response} {call : StoreCall}
    {reply : Except StoreError call.Result} (tells : r.Tells ttl answer call reply)
    (answered : v.store.answer call = .ok (reply, w.store))
    (queue : w.queue = v.queue ++ if v.listening then call.news reply else []) :
    r.Accounts v (.ok answer) w := by
  cases tells with
  | submitted method path body =>
    obtain ⟨newRequest, newToken, stored⟩ := Store.of_submitted answered
    exact .admitted method path (.intro rfl rfl rfl newRequest newToken stored queue)
  | decided presents asks status =>
    obtain ⟨valid, request, found, pending, rfl, rfl, stored⟩ := Store.of_committed answered
    obtain ⟨t, token, own, unused⟩ := Token.of_guard_valid valid
    refine .decided status presents asks (.intro found pending token own unused ?_ queue)
    rw [stored, Deed.store, Table.modify, token]
    dsimp only
    rw [Token.markUsed, unused, if_neg Bool.false_ne_true]

/-- Every run of a handler is accounted for, whatever the weather. -/
theorem run_handle_accounts (ttl : Int) (r : Request) (x : Scene) :
    r.Accounts x.world (x.run (handle ttl r)).1 (x.run (handle ttl r)).2.world := by
  have outcome := x.run_allOrNothing (handle_allOrNothing ttl r)
  generalize x.run (handle ttl r) = result at outcome ⊢
  cases outcome with
  | nothing idle store queue => exact .nothing idle ⟨store, queue⟩
  | carried answered tells queue => exact tells.accounts answered queue

/-- The record is read back from the body of the answer. -/
def Response.Holds (answer : Response) (q : ApprovalDesk.Request) : Prop :=
  (Json.parse? answer.body).map ApprovalDesk.Request.decode = some (.ok q)

/-- A record with the times of a clock is read back from any answer that consists of it. -/
theorem Response.holds_json (status : Nat) {q : ApprovalDesk.Request} (timed : q.Timed) :
    (Response.json status q.toJson).Holds q :=
  Json.decode_write q.numberless_toJson (ApprovalDesk.Request.decode_toJson timed)

/-- The answer to a request, or that there is none, agrees with what has become of the world. -/
structure Request.Agrees (r : Request) (v : World) (out : Except Crash Response) (w : World) : Prop where
  refused : (∀ answer, out = .ok answer → answer.status ≠ 200 ∧ answer.status ≠ 201) → v.Unchanged w
  created : (∃ answer, out = .ok answer ∧ answer.status = 201) ↔ ∃ q, v.Admits q w
  body : ∀ q, v.Admits q w → out = .ok (.json 201 q.toJson)
  record : ∀ q answer, v.Admits q w → out = .ok answer → q.Timed → answer.Holds q
  /-- Whatever else has changed comes from one decision through a link. -/
  decided : ¬ v.Unchanged w → (∀ q, ¬ v.Admits q w) →
    ∃ answer id supplied d, out = .ok answer ∧ answer.status = 200 ∧
      r.Presents id supplied ∧ r.Asks d ∧ v.Decides id supplied d w
  looked : r.method = "GET" → Route.ofPath? r.path ≠ some .approval → v.Unchanged w

namespace Request.Accounts

variable {v w : World} {out : Except Crash Response}

theorem refused (accounts : r.Accounts v out w)
    (status : ∀ answer, out = .ok answer → answer.status ≠ 200 ∧ answer.status ≠ 201) :
    v.Unchanged w := by
  cases accounts with
  | nothing modest same => exact same
  | admitted => exact absurd rfl (status _ rfl).2
  | decided ok => exact absurd ok (status _ rfl).1

/-- Only an answer 201 goes with an admitted request, and it holds that request. -/
theorem body (accounts : r.Accounts v out w) {q : ApprovalDesk.Request} (admits : v.Admits q w) :
    out = .ok (.json 201 q.toJson) := by
  cases accounts with
  | nothing _ same => exact absurd same admits.changed
  | admitted _ _ admits' => rw [admits'.unique admits]
  | decided _ _ _ decides => exact absurd admits decides.not_admits

theorem created (accounts : r.Accounts v out w) {answer : Response} (answered : out = .ok answer)
    (status : answer.status = 201) : ∃ q, v.Admits q w := by
  cases accounts with
  | nothing modest => exact absurd status (modest answer answered)
  | admitted _ _ admits => exact ⟨_, admits⟩
  | decided ok =>
    cases answered
    rw [ok] at status
    exact absurd status (by decide)

/-- A decision that was carried out is the one that the request asked for. -/
theorem asked (accounts : r.Accounts v out w) (decides : v.Decides id supplied d w) :
    r.Presents id supplied ∧ r.Asks d := by
  cases accounts with
  | nothing _ same => exact absurd same decides.changed
  | admitted _ _ admits => exact absurd admits decides.not_admits
  | decided _ presents asks decides' =>
    obtain ⟨rfl, rfl, rfl⟩ := decides.unique decides'
    exact ⟨presents, asks⟩

/-- Away from the link that approves, only POST changes anything. -/
theorem unposted (accounts : r.Accounts v out w) (method : r.method ≠ "POST")
    (path : Route.ofPath? r.path ≠ some .approval) : v.Unchanged w := by
  cases accounts with
  | nothing _ same => exact same
  | admitted post => exact absurd post method
  | decided _ _ asks =>
    cases asks with
    | approve _ approval => exact absurd approval path
    | reject post => exact absurd post method

end Request.Accounts

/-- **Answers and effects agree**, for every request, whatever is on record and whenever the store goes
down. A request that is answered neither 200 nor 201, or not at all, has changed nothing. One that is
answered 201 has put the request in its answer on record with its token, and announced it. Any other
change is one decision through a link, and is answered 200. -/
theorem answers_agree_with_effects (ttl : Int) (r : Request) (x : Scene) :
    r.Agrees x.world (x.run (handle ttl r)).1 (x.run (handle ttl r)).2.world := by
  have accounts := run_handle_accounts ttl r x
  refine ⟨accounts.refused, ⟨?_, ?_⟩, fun q => accounts.body, ?_, ?_, fun get path => ?_⟩
  · rintro ⟨answer, answered, status⟩
    exact accounts.created answered status
  · rintro ⟨q, admits⟩
    exact ⟨_, accounts.body admits, rfl⟩
  · intro q answer admits answered timed
    rw [accounts.body admits] at answered
    cases answered
    exact Response.holds_json 201 timed
  · intro changed notAdmitted
    generalize (x.run (handle ttl r)).1 = out at accounts ⊢
    cases accounts with
    | nothing _ same => exact absurd same changed
    | admitted _ _ admits => exact absurd admits (notAdmitted _)
    | decided status presents asks decides =>
      exact ⟨_, _, _, _, rfl, status, presents, asks, decides⟩
  · exact accounts.unposted (by rw [get]; decide) path

/-- Ann submits a request. -/
def annsSubmission : Request where
  method := "POST"
  target := "/api/certifications"
  headers := [("content-type", Utf8.encode "application/json")]
  body := Utf8.encode
    "\x7b\"userId\":\"u1\",\"userName\":\"Ann\",\"userEmail\":\"ann@example.org\"\x7d"

theorem annsSubmission_body :
    submissionOf? annsSubmission = some ⟨"u1", "Ann", "ann@example.org", none, none⟩ := by
  decide +kernel

/-- Ann's submission is answered 201, and so her request has been admitted. -/
theorem annsSubmission_is_admitted :
    ∃ q, (World.quiet .empty ⟨0, 0⟩).Admits q
      (Scene.run (handle 1000 annsSubmission) ⟨World.quiet .empty ⟨0, 0⟩, Sky.fair⟩).2.world := by
  have agrees := answers_agree_with_effects 1000 annsSubmission ⟨World.quiet .empty ⟨0, 0⟩, Sky.fair⟩
  apply agrees.created.1
  rw [handle_post rfl rfl, answerPost, submit_steps, annsSubmission_body]
  exact ⟨_, rfl, rfl⟩

end Http

end ApprovalDesk
