import ApprovalDesk.Proofs.Http.Methods
import ApprovalDesk.Proofs.Http.Reports

/-!
# Refusals on the routes of the links

Whoever follows a link and is refused is told why, in a page or in a JSON object, whichever is
preferred. There is one gap: a query that names a parameter of a link more than once is refused before
any handler has seen it, in a line of plain text, also to a caller that asked for JSON.
-/

namespace ApprovalDesk.Http

set_option autoImplicit false

open ApprovalDesk.Text ApprovalDesk.Workflow

/-! ## Names that are given again -/

/-- A name may be given once, or not at all if it was given before. -/
def allowance (seen : List String) (name : String) : Nat := if name ∈ seen then 0 else 1

variable {names seen given : List String}

theorem allowance_cons (n : String) (seen : List String) (name : String) :
    allowance (n :: seen) name = if name = n then 0 else allowance seen name := by
  by_cases same : name = n <;> simp [allowance, same]

/-- A name that is found to be repeated is one of those in question and is given too often. -/
theorem firstRepeated_some {name : String} (found : firstRepeated names seen given = some name) :
    name ∈ names ∧ allowance seen name < given.count name := by
  induction given generalizing seen with
  | nil => cases found
  | cons n given ih =>
    rw [firstRepeated] at found
    split at found
    case isTrue repeated =>
      cases found
      simp only [Bool.and_eq_true, List.contains_iff_mem] at repeated
      refine ⟨repeated.1, ?_⟩
      rw [allowance, if_pos repeated.2, List.count_cons_self]
      exact Nat.succ_pos _
    case isFalse =>
      obtain ⟨named, often⟩ := ih found
      refine ⟨named, ?_⟩
      rw [allowance_cons] at often
      by_cases same : name = n
      · subst same
        rw [if_pos rfl] at often
        rw [List.count_cons_self, allowance]
        split <;> omega
      · rw [if_neg same] at often
        rw [List.count_cons_of_ne (Ne.symm same)]
        exact often

/-- No name is found to be repeated just when none of those in question is given too often. -/
theorem firstRepeated_eq_none_iff :
    firstRepeated names seen given = none ↔ ∀ name ∈ names, given.count name ≤ allowance seen name := by
  constructor
  · intro none
    induction given generalizing seen with
    | nil => exact fun name _ => Nat.zero_le _
    | cons n given ih =>
      rw [firstRepeated] at none
      split at none
      case isTrue => cases none
      case isFalse fresh =>
        intro name named
        have rest := ih none name named
        rw [allowance_cons] at rest
        by_cases same : name = n
        · subst same
          have unseen : name ∉ seen := by simpa [List.contains_iff_mem, named] using fresh
          rw [if_pos rfl] at rest
          rw [List.count_cons_self, allowance, if_neg unseen]
          omega
        · rw [if_neg same] at rest
          rw [List.count_cons_of_ne (Ne.symm same)]
          exact rest
  · intro within
    cases found : firstRepeated names seen given with
    | none => rfl
    | some name =>
      obtain ⟨named, often⟩ := firstRepeated_some found
      exact absurd (within name named) (by omega)

/-- The query of a request names a parameter of a link more than once. -/
def Request.Repeats (r : Request) (name : String) : Prop :=
  name ∈ LinkParams.names ∧ 2 ≤ ((FormPairs.decode r.query).map (·.1)).count name

/-- A query is refused as a whole just when it repeats a parameter. -/
theorem LinkParams.ofPairs_cases (r : Request) :
    (∃ name, r.Repeats name ∧ LinkParams.ofPairs (FormPairs.decode r.query) = .error name) ∨
      (∀ name, ¬ r.Repeats name) ∧ ∃ params, LinkParams.ofPairs (FormPairs.decode r.query) = .ok params := by
  unfold LinkParams.ofPairs
  cases found : firstRepeated LinkParams.names [] ((FormPairs.decode r.query).map (·.1)) with
  | some name => exact .inl ⟨name, firstRepeated_some found, rfl⟩
  | none =>
    refine .inr ⟨fun name repeats => ?_, _, rfl⟩
    have within := firstRepeated_eq_none_iff.1 found name repeats.1
    have often := repeats.2
    simp only [allowance, List.not_mem_nil, if_false] at within
    omega

/-! ## What a refusal tells -/

theorem Report.failure_of_refused {report : Report} (refused : 400 ≤ report.status) :
    ∃ e, report = .failure e := by
  cases report with
  | processed | alreadyProcessed => exact absurd refused (by simp [status])
  | failure e => exact ⟨e, rfl⟩

/-- Whatever refusal a flow comes to tells of a failure, in the form that the caller prefers. -/
def RefusesIn (format : Format) (f : Flow Response) : Prop :=
  ∀ (x : Scene) (answer : Response), (x.run f).1 = .ok answer → 400 ≤ answer.status →
    ∃ e, answer.Tells (.failure e) format

variable {ttl : Int} {r : Request} {route : Route}

section RefusesIn

variable {format : Format}

theorem RefusesIn.map {α : Type} {f : Flow α} {g : α → Response}
    (each : ∀ a, 400 ≤ (g a).status → ∃ e, (g a).Tells (.failure e) format) :
    RefusesIn format (g <$> f) := by
  intro x answer ran refused
  rw [Scene.run_map] at ran
  dsimp only at ran
  cases first : (x.run f).1 with
  | error c =>
    rw [first] at ran
    cases ran
  | ok a =>
    rw [first] at ran
    cases ran
    exact each a refused

theorem refusesIn_done {answer : Response}
    (tells : 400 ≤ answer.status → ∃ e, answer.Tells (.failure e) format) :
    RefusesIn format (.done answer) := by
  intro x other ran refused
  cases ran
  exact tells refused

theorem respondFailure_tells (e : Failure) (format : Format) :
    (respondFailure e format).Tells (.failure e) format := by
  rw [respondFailure_eq_respond]
  exact Report.tells_respond (.failure e) format

theorem refusesIn_failure (e : Failure) : RefusesIn format (.done (respondFailure e format)) :=
  refusesIn_done fun _ => ⟨e, respondFailure_tells e format⟩

theorem decide_refusesIn (id supplied : String) (d : Decision) :
    RefusesIn format (decide ttl format id supplied d) := by
  rw [decide_steps]
  refine .map fun result refused => ?_
  rw [respondDecision_eq_respond] at refused ⊢
  rw [Report.respond_status] at refused
  obtain ⟨e, failed⟩ := Report.failure_of_refused refused
  rw [failed]
  exact ⟨e, Report.tells_respond (.failure e) format⟩

theorem inspect_refusesIn (id supplied : String) :
    RefusesIn format (respondInspection id supplied format <$> (inspect ttl id supplied).run) := by
  refine .map fun result refused => ?_
  rcases result with e | request | status
  · exact ⟨e, respondFailure_tells e format⟩
  · exact absurd refused (by decide : ¬ 400 ≤ 200)
  · rw [respondInspection, respondAlreadyProcessed_status] at refused
    exact absurd refused (by decide)

end RefusesIn

/-- A link that is served is read first, and then it is refused by its handler in the form that the
caller prefers, if at all. -/
theorem handle_reads_link (ttl : Int) (path : Route.ofPath? r.path = some route)
    (link : route = .approval ∨ route = .rejection) (notHead : r.method ≠ "HEAD")
    (served : r.method ∈ route.methods) :
    ∃ next, handle ttl r = withLink r next ∧ ∀ id supplied, RefusesIn r.format (next id supplied) := by
  rcases link with rfl | rfl
  case inl =>
    have get : r.method = "GET" := by simpa [Route.methods, notHead] using served
    rw [handle_get path get, answerGet, approve]
    exact ⟨_, rfl, fun id supplied => decide_refusesIn id supplied .approve⟩
  case inr =>
    have method : r.method = "GET" ∨ r.method = "POST" := by
      simpa [Route.methods, notHead] using served
    rcases method with get | post
    · rw [handle_get path get, answerGet, showRejectionForm_steps]
      exact ⟨_, rfl, inspect_refusesIn⟩
    · rw [handle_post path post, answerPost, reject_steps]
      refine ⟨_, rfl, fun id supplied => ?_⟩
      split
      · exact refusesIn_failure .reasonRequired
      · exact decide_refusesIn id supplied _

/-- A link whose query repeats a parameter is not followed. -/
theorem withLink_of_repeated {name : String}
    (query : LinkParams.ofPairs (FormPairs.decode r.query) = .error name)
    (next : String → String → Flow Response) :
    withLink r next = .done (respondUnreadableQuery name) := by
  unfold withLink
  rw [query]
  rfl

/-- A link whose query can be read is refused by its handler, or for what the query lacks. -/
theorem withLink_refusesIn {next : String → String → Flow Response} {params : LinkParams}
    (query : LinkParams.ofPairs (FormPairs.decode r.query) = .ok params)
    (rest : ∀ id supplied, RefusesIn r.format (next id supplied)) :
    RefusesIn r.format (withLink r next) := by
  unfold withLink
  rw [query]
  dsimp only
  cases params.require with
  | error e => exact refusesIn_failure e
  | ok pair => exact rest pair.1 pair.2

/-- A method that a link does not have is refused in the form that the caller prefers. -/
theorem refuseMethod_tells (link : route = .approval ∨ route = .rejection) :
    (refuseMethod route r).Tells (.failure .methodNotAllowed) r.format := by
  have told := (respondFailure_tells .methodNotAllowed r.format).allow (some route.allow)
  rcases link with rfl | rfl <;> exact told

/-! ## Which refusals are told -/

/-- **Refusals on the routes of the links are told in a page or in JSON**, except for a query that
repeats a parameter and comes with a method that the route serves: that is always answered with a line of
plain text, whatever the caller accepts, and nothing else is. -/
theorem link_refusals_are_told (ttl : Int) (x : Scene) (r : Request) (route : Route)
    (path : Route.ofPath? r.path = some route) (link : route = .approval ∨ route = .rejection)
    (notHead : r.method ≠ "HEAD") :
    (r.method ∈ route.methods ∧ (∃ name, r.Repeats name) →
      ∃ name, r.Repeats name ∧ x.run (handle ttl r) = (.ok (respondUnreadableQuery name), x)) ∧
    (¬ (r.method ∈ route.methods ∧ ∃ name, r.Repeats name) →
      ∀ answer, (x.run (handle ttl r)).1 = .ok answer → 400 ≤ answer.status →
        ∃ e, answer.Tells (.failure e) r.format) := by
  by_cases served : r.method ∈ route.methods
  case neg =>
    refine ⟨fun both => absurd both.1 served, fun _ answer ran _ => ?_⟩
    rw [handle_refused path served] at ran
    cases ran
    exact ⟨.methodNotAllowed, refuseMethod_tells link⟩
  case pos =>
    obtain ⟨next, reads, rest⟩ := handle_reads_link ttl path link notHead served
    rw [reads]
    rcases LinkParams.ofPairs_cases r with ⟨name, repeats, query⟩ | ⟨once, params, query⟩
    · rw [withLink_of_repeated query]
      exact ⟨fun _ => ⟨name, repeats, rfl⟩, fun clean => absurd ⟨served, name, repeats⟩ clean⟩
    · exact ⟨fun ⟨_, name, repeats⟩ => absurd repeats (once name),
        fun _ => withLink_refusesIn query rest x⟩

/-- Somebody follows a link to Ann's request and prefers JSON. -/
def follow (query : String) : Request where
  method := "GET"
  target := "/processApproval?" ++ query
  headers := [("Accept", Utf8.encode "application/json")]
  body := []

/-- A link with the wrong string is refused in JSON. -/
theorem wrong_link_is_refused_in_json :
    ∃ answer e, (Scene.run (handle 1000 (follow "requestId=r1&token=xyz"))
        ⟨World.withAnnsRequest, Sky.fair⟩).1 = .ok answer ∧
      answer.status = 403 ∧ answer.TellsJson (.failure e) := by
  have once : ∀ name ∈ LinkParams.names,
      ¬ 2 ≤ ((FormPairs.decode (follow "requestId=r1&token=xyz").query).map (·.1)).count name := by
    decide +kernel
  obtain ⟨-, told⟩ := link_refusals_are_told 1000 ⟨World.withAnnsRequest, Sky.fair⟩
    (follow "requestId=r1&token=xyz") .approval (by decide) (.inl rfl) (by decide)
  obtain ⟨e, tells⟩ := told (fun ⟨_, name, named, often⟩ => once name named often)
    (respondFailure .forbidden .json) rfl (by decide)
  exact ⟨_, e, rfl, rfl, tells⟩

/-- A link that gives the string twice is refused in plain text, although JSON is preferred. -/
theorem repeated_token_is_refused_in_plain_text :
    Route.ofPath? (follow "requestId=r1&token=a&token=b").path = some .approval ∧
      (follow "requestId=r1&token=a&token=b").method ≠ "HEAD" ∧
      (follow "requestId=r1&token=a&token=b").format = .json ∧
      ∃ answer, (Scene.run (handle 1000 (follow "requestId=r1&token=a&token=b"))
          ⟨World.withAnnsRequest, Sky.fair⟩).1 = .ok answer ∧
        answer.status = 400 ∧ answer.contentType = some "text/plain; charset=utf-8" ∧
        ∀ report format, ¬ answer.Tells report format := by
  refine ⟨by decide, by decide, by decide, respondUnreadableQuery "token", rfl, rfl, rfl, ?_⟩
  intro report format tells
  cases format with
  | json => exact absurd tells.contentType (by decide)
  | html => exact absurd tells.contentType (by decide)

end ApprovalDesk.Http
