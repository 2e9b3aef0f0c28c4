import ApprovalDesk.Proofs.Dialogue.Alike
import ApprovalDesk.Proofs.Http.Methods
import ApprovalDesk.Proofs.Http.Reports

/-!
# What the caller accepts

Two requests that differ only in their Accept headers are served by the same questions to the store, the
clock and the other surroundings. So they leave the same scene behind, and their answers have the same
status. On the routes that decide by a link the answers tell of the same outcome, one in the members of
an object and the other in the title and the message of a page.
-/

namespace ApprovalDesk.Http

set_option autoImplicit false

open ApprovalDesk.Text ApprovalDesk.Workflow ApprovalDesk.Dialogue

/-! ## Requests that differ in what they accept -/

/-- A header that says what the caller accepts. -/
def isAccept (h : String × List UInt8) : Bool := h.1.toList.map Char.toLower == "accept".toList

/-- The two requests are equal except for their Accept headers, however many there are. -/
structure Request.SameButAccept (r r' : Request) : Prop where
  method : r.method = r'.method
  target : r.target = r'.target
  headers : r.headers.filter (!isAccept ·) = r'.headers.filter (!isAccept ·)
  body : r.body = r'.body

namespace Request.SameButAccept

variable {r r' : Request} (same : r.SameButAccept r')

include same

/-- Any other header is the same. -/
theorem header? {name : String} (other : name ≠ "accept") : r.header? name = r'.header? name := by
  have found (r : Request) :
      (r.headers.find? fun h => h.1.toList.map Char.toLower == name.toList) =
        (r.headers.filter (!isAccept ·)).find? fun h => h.1.toList.map Char.toLower == name.toList := by
    rw [List.find?_filter]
    congr 1
    funext h
    cases named : h.1.toList.map Char.toLower == name.toList with
    | false => simp
    | true =>
      have differs : isAccept h = false := by
        rw [isAccept, eq_of_beq named, beq_eq_false_iff_ne]
        exact fun equal => other (String.toList_inj.1 equal)
      simp [differs]
  rw [Request.header?, Request.header?, found r, found r', same.headers]

theorem localTarget : r.localTarget = r'.localTarget := by
  rw [Request.localTarget, Request.localTarget, same.target]

theorem path : r.path = r'.path := by rw [Request.path, Request.path, same.localTarget]

theorem query : r.query = r'.query := by rw [Request.query, Request.query, same.localTarget]

theorem readableBody? : r.readableBody? = r'.readableBody? := by
  rw [Request.readableBody?, Request.readableBody?, same.body]

theorem reasonOf : reasonOf r = Http.reasonOf r' := by
  rw [Http.reasonOf, Http.reasonOf, same.header? (by decide), same.readableBody?]

theorem submissionOf? : submissionOf? r = Http.submissionOf? r' := by
  rw [Http.submissionOf?, Http.submissionOf?, same.header? (by decide), same.readableBody?]

end Request.SameButAccept

/-! ## Handlers that are alike -/

/-- Two answers to callers that prefer the given formats are the same, or give the same report. -/
inductive Response.Presents (format format' : Format) : Response → Response → Prop where
  | fixed (answer : Response) : Presents format format' answer answer
  | report (report : Report) (allow : Option String) : Presents format format'
      { report.respond format with allow } { report.respond format' with allow }

theorem Response.Presents.status {format format' : Format} {answer answer' : Response}
    (h : Response.Presents format format' answer answer') : answer.status = answer'.status := by
  cases h with
  | fixed => rfl
  | report report allow => exact (report.respond_status format).trans (report.respond_status format').symm

/-- Two flows ask the same questions, and their answers differ at most in how they are presented. -/
abbrev PresentedAlike (format format' : Format) : Flow Response → Flow Response → Prop :=
  Alike Itself (Response.Presents format format')

section Alike

variable {ttl : Int} {r r' : Request} {format format' : Format}

theorem presents_report (report : Report) :
    Response.Presents format format' (report.respond format) (report.respond format') := by
  have same : Response.Presents format format' { report.respond format with allow := none }
      { report.respond format' with allow := none } := .report report none
  cases format <;> cases format' <;> exact same

theorem presents_failure (e : Failure) :
    Response.Presents format format' (respondFailure e format) (respondFailure e format') := by
  rw [respondFailure_eq_respond, respondFailure_eq_respond]
  exact presents_report (.failure e)

/-- A flow whose answer does not depend on what the caller accepts. -/
theorem presentedAlike_self (f : Flow Response) : PresentedAlike format format' f f :=
  (Alike.itself f).mono fun a _ equal => equal ▸ .fixed a

theorem withLink_presentedAlike (same : r.SameButAccept r') {next next' : String → String → Flow Response}
    (rest : ∀ id supplied, PresentedAlike r.format r'.format (next id supplied) (next' id supplied)) :
    PresentedAlike r.format r'.format (withLink r next) (withLink r' next') := by
  unfold withLink
  rw [same.query]
  cases LinkParams.ofPairs (FormPairs.decode r'.query) with
  | error name => exact .done (.fixed _)
  | ok params =>
    dsimp only
    cases params.require with
    | error e => exact .done (presents_failure e)
    | ok pair => exact rest pair.1 pair.2

theorem decide_presentedAlike (id supplied : String) (d : Decision) :
    PresentedAlike format format' (decide ttl format id supplied d) (decide ttl format' id supplied d) := by
  rw [decide_steps, decide_steps]
  refine (Alike.itself _).map fun result _ equal => ?_
  rw [← equal, respondDecision_eq_respond, respondDecision_eq_respond]
  exact presents_report _

theorem refuseMethod_presentedAlike (r r' : Request) (route : Route) :
    Response.Presents r.format r'.format (refuseMethod route r) (refuseMethod route r') := by
  have told : Response.Presents r.format r'.format
      { respondFailure .methodNotAllowed r.format with allow := some route.allow }
      { respondFailure .methodNotAllowed r'.format with allow := some route.allow } := by
    rw [respondFailure_eq_respond, respondFailure_eq_respond]
    exact .report (.failure .methodNotAllowed) (some route.allow)
  cases route with
  | approval | rejection => exact told
  | health | submissions | submission => exact .fixed _

variable (ttl : Int) (same : r.SameButAccept r')

include same

theorem approve_presentedAlike : PresentedAlike r.format r'.format (approve ttl r) (approve ttl r') :=
  withLink_presentedAlike same fun id supplied => decide_presentedAlike id supplied .approve

theorem showRejectionForm_presentedAlike :
    PresentedAlike r.format r'.format (showRejectionForm ttl r) (showRejectionForm ttl r') := by
  rw [showRejectionForm_steps, showRejectionForm_steps]
  refine withLink_presentedAlike same fun id supplied => (Alike.itself _).map fun result _ equal => ?_
  rw [← equal]
  rcases result with e | request | status
  · exact presents_failure e
  · exact .fixed _
  · rw [respondInspection, respondInspection, respondAlreadyProcessed_eq_respond,
      respondAlreadyProcessed_eq_respond]
    exact presents_report _

theorem reject_presentedAlike : PresentedAlike r.format r'.format (reject ttl r) (reject ttl r') := by
  rw [reject_steps, reject_steps]
  refine withLink_presentedAlike same fun id supplied => ?_
  rw [same.reasonOf]
  split
  · exact .done (presents_failure _)
  · exact decide_presentedAlike id supplied _

theorem submit_presentedAlike : PresentedAlike r.format r'.format (submit r) (submit r') := by
  rw [submit_steps, submit_steps, same.submissionOf?]
  exact presentedAlike_self _

theorem answerGet_presentedAlike (route : Route) :
    PresentedAlike r.format r'.format (answerGet ttl r route) (answerGet ttl r' route) := by
  cases route with
  | health => exact presentedAlike_self showHealth
  | approval => exact approve_presentedAlike ttl same
  | rejection => exact showRejectionForm_presentedAlike ttl same
  | submission segment => exact presentedAlike_self (showRequest segment)
  | submissions => exact .done (refuseMethod_presentedAlike r r' .submissions)

theorem answerPost_presentedAlike (route : Route) :
    PresentedAlike r.format r'.format (answerPost ttl r route) (answerPost ttl r' route) := by
  cases route with
  | rejection => exact reject_presentedAlike ttl same
  | submissions => exact submit_presentedAlike same
  | health | approval | submission => exact .done (refuseMethod_presentedAlike r r' _)

theorem handle_presentedAlike (notHead : r.method ≠ "HEAD") :
    PresentedAlike r.format r'.format (handle ttl r) (handle ttl r') := by
  cases path : Route.ofPath? r.path with
  | none =>
    rw [handle_nowhere path, handle_nowhere (same.path ▸ path)]
    exact .done (.fixed _)
  | some route =>
    have path' : Route.ofPath? r'.path = some route := same.path ▸ path
    by_cases get : r.method = "GET"
    · rw [handle_get path get, handle_get path' (same.method ▸ get)]
      exact answerGet_presentedAlike ttl same route
    by_cases post : r.method = "POST"
    · rw [handle_post path post, handle_post path' (same.method ▸ post)]
      exact answerPost_presentedAlike ttl same route
    · rw [handle_other path get notHead post, handle_other path' (same.method ▸ get)
        (same.method ▸ notHead) (same.method ▸ post)]
      exact .done (refuseMethod_presentedAlike r r' route)

/-- Whatever the method, the answers have the same status. -/
theorem handle_alike_in_status :
    Alike Itself (fun answer answer' : Response => answer.status = answer'.status)
      (handle ttl r) (handle ttl r') := by
  by_cases head : r.method = "HEAD"
  case neg => exact (handle_presentedAlike ttl same head).mono fun _ _ presents => presents.status
  case pos =>
    cases path : Route.ofPath? r.path with
    | none =>
      rw [handle_nowhere path, handle_nowhere (same.path ▸ path)]
      exact .done rfl
    | some route =>
      rw [handle_head path head, handle_head (same.path ▸ path) (same.method ▸ head)]
      exact (answerGet_presentedAlike ttl same route).map fun _ _ presents => presents.status

end Alike

/-! ## Two runs -/

/-- Alike flows leave the same scene. -/
theorem run_alike {S : Response → Response → Prop} {f g : Flow Response} (alike : Alike Itself S f g)
    (x : Scene) : Ends S Eq (x.run f) (x.run g) := by
  refine alike.run (fun {q q' T s t} asked around => ?_) rfl
  cases asked
  rw [around]
  exact .refl _

/-- An answer as an object and an answer as a page that present the same thing give the same report. -/
theorem Response.Presents.tells {format format' : Format} {answer answer' : Response}
    (h : Response.Presents format format' answer answer')
    (object : answer.contentType = some "application/json")
    (page : answer'.contentType = some "text/html; charset=utf-8") :
    ∃ report, answer.TellsJson report ∧ answer'.TellsPage report := by
  cases h with
  | fixed =>
    rw [object] at page
    exact absurd page (by decide)
  | report report allow =>
    cases format with
    | html => exact absurd object (by decide : some "text/html; charset=utf-8" ≠ some "application/json")
    | json =>
      cases format' with
      | json => exact absurd page (by decide : some "application/json" ≠ some "text/html; charset=utf-8")
      | html => exact ⟨report, (report.tells_respond .json).allow allow,
          (report.tells_respond .html).allow allow⟩

/-- A request that decides by a link. -/
def Request.DecidesByLink (r : Request) : Prop :=
  r.method = "GET" ∧ Route.ofPath? r.path = some .approval ∨
    r.method = "POST" ∧ Route.ofPath? r.path = some .rejection

/-- **What the caller accepts changes only the presentation.** Two requests that are equal except for
their Accept headers leave the same scene, are answered with the same status, and on the routes that
decide by a link an object and a page tell of the same outcome. -/
theorem accept_changes_only_the_presentation (ttl : Int) (x : Scene) {r r' : Request}
    (same : r.SameButAccept r') :
    (x.run (handle ttl r)).2 = (x.run (handle ttl r')).2 ∧
    (x.run (handle ttl r)).1.map (·.status) = (x.run (handle ttl r')).1.map (·.status) ∧
    (r.DecidesByLink → ∀ answer answer',
      (x.run (handle ttl r)).1 = .ok answer → (x.run (handle ttl r')).1 = .ok answer' →
      answer.contentType = some "application/json" →
      answer'.contentType = some "text/html; charset=utf-8" →
      ∃ report, answer.TellsJson report ∧ answer'.TellsPage report) := by
  have ends := run_alike (handle_alike_in_status ttl same) x
  refine ⟨?scene, ?status, fun decides answer answer' ran ran' object page => ?outcome⟩
  case scene =>
    generalize x.run (handle ttl r) = left, x.run (handle ttl r') = right at ends
    cases ends with
    | value _ around => exact around
    | crash _ around => exact around
  case status =>
    generalize x.run (handle ttl r) = left, x.run (handle ttl r') = right at ends
    cases ends with
    | value related => exact congrArg Except.ok related
    | crash => rfl
  case outcome =>
    have notHead : r.method ≠ "HEAD" := by
      rcases decides with ⟨get, -⟩ | ⟨post, -⟩
      · rw [get]
        decide
      · rw [post]
        decide
    have presented := run_alike (handle_presentedAlike ttl same notHead) x
    generalize x.run (handle ttl r) = left, x.run (handle ttl r') = right at presented ran ran'
    cases presented with
    | value related =>
      cases ran
      cases ran'
      exact related.tells object page
    | crash => cases ran

/-- The link that approves Ann's request, with the Accept header of a program. -/
def lookForJson : Request := { look "GET" with headers := [("Accept", Utf8.encode "application/json")] }

/-- A program and a browser follow the link that approves Ann's request: either way the same scene is
left, and both are told of the same outcome. -/
theorem annsLink_in_json_and_in_html : lookForJson.SameButAccept (look "GET") ∧
    ∃ answer answer' report after,
      Scene.run (handle 1000 lookForJson) ⟨World.withAnnsRequest, Sky.fair⟩ = (.ok answer, after) ∧
      Scene.run (handle 1000 (look "GET")) ⟨World.withAnnsRequest, Sky.fair⟩ = (.ok answer', after) ∧
      answer.TellsJson report ∧ answer'.TellsPage report := by
  have same : lookForJson.SameButAccept (look "GET") := ⟨rfl, rfl, by decide, rfl⟩
  obtain ⟨scene, -, outcome⟩ :=
    accept_changes_only_the_presentation 1000 ⟨World.withAnnsRequest, Sky.fair⟩ same
  obtain ⟨report, object, page⟩ := outcome (.inl ⟨rfl, by decide⟩) _ _ rfl rfl rfl rfl
  exact ⟨same, _, _, report, _, rfl, Prod.ext rfl scene.symm, object, page⟩

end ApprovalDesk.Http
