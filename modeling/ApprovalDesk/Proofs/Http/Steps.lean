import ApprovalDesk.Http.Router
import ApprovalDesk.Proofs.Workflow.Steps

/-!
# The steps of each handler

A handler reads what it needs from the request, makes at most one call to the workflow, and puts what
came of it into an answer. Written out in this way the handlers need not be opened again: which of them
a request reaches is told by its method and its route, and what is left is a call to the workflow whose
value is renamed.
-/

namespace ApprovalDesk

set_option autoImplicit false

/-- No failure is answered as a success. -/
theorem Failure.le_status (e : Failure) : 400 ≤ e.status := by
  cases e <;> simp [status]

/-- No failure is answered as if something had been created. -/
theorem Failure.status_ne_created (e : Failure) : e.status ≠ 201 := by
  have refused := e.le_status
  omega

end ApprovalDesk

namespace ApprovalDesk.Http

open ApprovalDesk.Text ApprovalDesk.Workflow

/-! ## The status of an answer -/

@[simp] theorem respondFailure_status (e : Failure) (format : Format) :
    (respondFailure e format).status = e.status := by
  cases format <;> rfl

@[simp] theorem respondAlreadyProcessed_status (id : String) (status : Status) (format : Format) :
    (respondAlreadyProcessed id status format).status = 200 := by
  cases format <;> rfl

@[simp] theorem respondOutcome_status (id : String) (outcome : Outcome) (format : Format) :
    (respondOutcome id outcome format).status = 200 := by
  cases outcome with
  | processed r => cases format <;> rfl
  | alreadyProcessed status => exact respondAlreadyProcessed_status id status format

@[simp] theorem refuseMethod_status (route : Route) (r : Request) :
    (refuseMethod route r).status = 405 := by
  cases route with
  | approval | rejection => exact respondFailure_status .methodNotAllowed r.format
  | health | submissions | submission => rfl

/-! ## What a link presents -/

/-- The query names a request and gives a string, neither of them blank. -/
structure Request.Presents (r : Request) (id supplied : String) : Prop where
  query : LinkParams.ofPairs (FormPairs.decode r.query) = .ok ⟨some id, some supplied⟩
  id_given : isBlankText id = false
  supplied_given : isBlankText supplied = false

namespace LinkParams

theorem present_eq_some_iff {value : Option String} {s : String} :
    present value = some s ↔ value = some s ∧ isBlankText s = false := by
  rw [present, Option.filter_eq_some_iff]
  simp

/-- Both parameters are required, and neither may be blank. -/
theorem require_eq_ok_iff {p : LinkParams} {id supplied : String} :
    p.require = .ok (id, supplied) ↔
      p = ⟨some id, some supplied⟩ ∧ isBlankText id = false ∧ isBlankText supplied = false := by
  obtain ⟨requestId, token⟩ := p
  rw [LinkParams.mk.injEq, and_assoc, and_left_comm (b := isBlankText id = false), ← and_assoc,
    ← present_eq_some_iff, ← present_eq_some_iff, require]
  cases present requestId <;> cases present token <;> simp

theorem status_of_require_error {p : LinkParams} {e : Failure} (refused : p.require = .error e) :
    e.status = 400 := by
  unfold require at refused
  split at refused <;> cases refused
  rfl

end LinkParams

/-- A link that presents what it has to is followed. -/
theorem withLink_of_presents {r : Request} {id supplied : String} (presents : r.Presents id supplied)
    (next : String → String → Flow Response) : withLink r next = next id supplied := by
  have required := LinkParams.require_eq_ok_iff.2 ⟨rfl, presents.id_given, presents.supplied_given⟩
  unfold withLink
  rw [presents.query]
  dsimp only
  rw [required]

/-- A link is followed, or refused for what its query lacks. -/
theorem withLink_cases (r : Request) (next : String → String → Flow Response) :
    (∃ id supplied, r.Presents id supplied ∧ withLink r next = next id supplied) ∨
      ∃ answer, answer.status = 400 ∧ withLink r next = .done answer := by
  unfold withLink
  cases query : LinkParams.ofPairs (FormPairs.decode r.query) with
  | error name => exact Or.inr ⟨_, rfl, rfl⟩
  | ok params =>
    dsimp only
    cases required : params.require with
    | error e =>
      refine Or.inr ⟨_, ?_, rfl⟩
      rw [respondFailure_status, LinkParams.status_of_require_error required]
    | ok pair =>
      obtain ⟨id, supplied⟩ := pair
      obtain ⟨rfl, id_given, supplied_given⟩ := LinkParams.require_eq_ok_iff.1 required
      exact Or.inl ⟨id, supplied, ⟨query, id_given, supplied_given⟩, rfl⟩

/-! ## Calls to the workflow and their answers -/

/-- The answer to a decision, by what came of it. -/
def respondDecision (id : String) (format : Format) : Except Failure Outcome → Response
  | .ok outcome => respondOutcome id outcome format
  | .error e => respondFailure e format

/-- The answer to whoever asks for the form, by what was found. -/
def respondInspection (id supplied : String) (format : Format) : Except Failure Inspection → Response
  | .ok (.pending request) => .html 200 (RejectionForm.of request supplied).write
  | .ok (.alreadyProcessed status) => respondAlreadyProcessed id status format
  | .error e => respondFailure e format

/-- The answer that holds a request, or says why it cannot be shown. -/
def respondRequest (status : Nat) : Except Failure ApprovalDesk.Request → Response
  | .ok request => .json status request.toJson
  | .error e => respondFailureJson e

/-- An answer without its body. -/
def Response.bodiless (answer : Response) : Response := { answer with body := "" }

variable {ttl : Int} {r : Request}

theorem decide_steps (format : Format) (id supplied : String) (d : Decision) :
    decide ttl format id supplied d =
      respondDecision id format <$> (process ttl id supplied d).run := by
  rw [← bind_pure_comp, decide]
  refine congrArg ((process ttl id supplied d).run >>= ·) (funext fun result => ?_)
  cases result <;> rfl

theorem showRejectionForm_steps : showRejectionForm ttl r = withLink r fun id supplied =>
    respondInspection id supplied r.format <$> (inspect ttl id supplied).run := by
  rw [showRejectionForm]
  refine congrArg (withLink r) (funext fun id => funext fun supplied => ?_)
  rw [← bind_pure_comp]
  refine congrArg ((inspect ttl id supplied).run >>= ·) (funext fun result => ?_)
  rcases result with e | request | status <;> rfl

/-- A rejection needs a reason before anything else is looked at. -/
theorem reject_steps : reject ttl r = withLink r fun id supplied =>
    if isBlankText (reasonOf r) then .done (respondFailure .reasonRequired r.format)
    else decide ttl r.format id supplied (.reject (trim (reasonOf r))) := by
  rw [reject]
  refine congrArg (withLink r) (funext fun id => funext fun supplied => ?_)
  rw [Decision.rejectFor, isBlankText]
  cases (trim (reasonOf r)).isEmpty <;> rfl

theorem submit_steps : submit r = match submissionOf? r with
    | none => .done (respondFailureJson submissionRequired)
    | some data => respondRequest 201 <$> (Workflow.submit data).run := by
  rw [submit]
  cases submissionOf? r with
  | none => rfl
  | some data =>
    dsimp only
    rw [← bind_pure_comp]
    refine congrArg ((Workflow.submit data).run >>= ·) (funext fun result => ?_)
    cases result <;> rfl

theorem showRequest_steps (segment : List Char) : showRequest segment =
    match Utf8.decode? (Percent.decode (Utf8.encodeChars segment)) with
    | none => .done respondUnreadableId
    | some id => respondRequest 200 <$> (find id).run := by
  rw [showRequest]
  cases Utf8.decode? (Percent.decode (Utf8.encodeChars segment)) with
  | none => rfl
  | some id =>
    dsimp only
    rw [← bind_pure_comp]
    refine congrArg ((find id).run >>= ·) (funext fun result => ?_)
    cases result <;> rfl

/-! ## Which handler a request reaches -/

theorem handle_nowhere (path : Route.ofPath? r.path = none) : handle ttl r = .done (.bare 404) := by
  rw [handle, path]
  rfl

variable {route : Route}

section Somewhere

variable (path : Route.ofPath? r.path = some route)

include path

theorem handle_get (get : r.method = "GET") : handle ttl r = answerGet ttl r route := by
  rw [handle, path]
  exact if_pos get

/-- A request for HEAD is handled like one for GET; only the body of the answer is dropped. -/
theorem handle_head (head : r.method = "HEAD") :
    handle ttl r = Response.bodiless <$> answerGet ttl r route := by
  rw [handle, path]
  dsimp only
  rw [head, if_neg (by decide), if_pos rfl]
  rfl

theorem handle_post (post : r.method = "POST") : handle ttl r = answerPost ttl r route := by
  rw [handle, path]
  dsimp only
  rw [post, if_neg (by decide), if_neg (by decide), if_pos rfl]

theorem handle_other (notGet : r.method ≠ "GET") (notHead : r.method ≠ "HEAD")
    (notPost : r.method ≠ "POST") : handle ttl r = .done (refuseMethod route r) := by
  rw [handle, path]
  dsimp only
  rw [if_neg notGet, if_neg notHead, if_neg notPost]
  rfl

end Somewhere

end ApprovalDesk.Http
