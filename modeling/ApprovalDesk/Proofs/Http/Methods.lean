import ApprovalDesk.Proofs.Http.Effects

/-!
# Methods

A route answers some methods and refuses every other one, known or not, before it looks at anything
else. What comes through a link with a method that is refused therefore changes nothing, whatever the
link presents. A route that answers GET answers HEAD as well, and does for it all that it does for GET;
whoever only asks for the headers of the page behind the link that approves has approved.
-/

namespace ApprovalDesk.Http

set_option autoImplicit false

open ApprovalDesk.Text

/-- The methods that a route answers. -/
def Route.methods : Route → List String
  | .health | .approval | .submission _ => ["GET", "HEAD"]
  | .rejection => ["GET", "HEAD", "POST"]
  | .submissions => ["POST"]

variable {ttl : Int} {r : Request} {route : Route}

theorem answerGet_refused (other : "GET" ∉ route.methods) :
    answerGet ttl r route = .done (refuseMethod route r) := by
  cases route with
  | submissions => rfl
  | health | approval | rejection | submission => exact absurd List.mem_cons_self other

theorem answerPost_refused (other : "POST" ∉ route.methods) :
    answerPost ttl r route = .done (refuseMethod route r) := by
  cases route with
  | health | approval | submission => rfl
  | submissions => exact absurd List.mem_cons_self other
  | rejection => exact absurd (by decide) other

/-- What answers GET answers HEAD, and nothing else does. -/
theorem Route.head_mem_methods_iff : "HEAD" ∈ route.methods ↔ "GET" ∈ route.methods := by
  cases route <;> simp [methods]

/-- A method that the route does not have is refused before anything is read. -/
theorem handle_refused (path : Route.ofPath? r.path = some route) (other : r.method ∉ route.methods) :
    handle ttl r = .done (refuseMethod route r) := by
  by_cases get : r.method = "GET"
  · rw [handle_get path get]
    rw [get] at other
    exact answerGet_refused other
  by_cases head : r.method = "HEAD"
  · rw [head, Route.head_mem_methods_iff] at other
    rw [handle_head path head, answerGet_refused other]
    cases route with
    | submissions => rfl
    | health | approval | rejection | submission => exact absurd List.mem_cons_self other
  by_cases post : r.method = "POST"
  · rw [handle_post path post]
    rw [post] at other
    exact answerPost_refused other
  · exact handle_other path get head post

/-- **Only the methods of a route act.** Any other method is answered 405, and nothing changes. A
decision through a link is the one that its method, its path and its form ask for; HEAD asks for an
approval as GET does, and for nothing else. -/
theorem only_the_methods_of_a_route_act (ttl : Int) (r : Request) (x : Scene) :
    (∀ route, Route.ofPath? r.path = some route → r.method ∉ route.methods →
      (refuseMethod route r).status = 405 ∧ x.run (handle ttl r) = (.ok (refuseMethod route r), x)) ∧
    (r.method = "HEAD" → Route.ofPath? r.path ≠ some .approval →
      x.world.Unchanged (x.run (handle ttl r)).2.world) ∧
    ∀ id supplied d, x.world.Decides id supplied d (x.run (handle ttl r)).2.world →
      r.Presents id supplied ∧ r.Asks d := by
  have accounts := run_handle_accounts ttl r x
  refine ⟨fun route path other => ?_, fun head path => ?_, fun id supplied d => accounts.asked⟩
  · rw [handle_refused path other]
    exact ⟨refuseMethod_status route r, rfl⟩
  · exact accounts.unposted (by rw [head]; decide) path

/-- Somebody looks at the link that approves Ann's request, with a method of their choice. -/
def look (method : String) : Request where
  method := method
  target := "/processApproval?requestId=r1&token=abc"
  headers := []
  body := []

/-- A method that no route knows does nothing, although the link is the right one. -/
theorem probe_is_refused :
    (refuseMethod .approval (look "PROPFIND")).status = 405 ∧
      Scene.run (handle 1000 (look "PROPFIND")) ⟨World.withAnnsRequest, Sky.fair⟩ =
        (.ok (refuseMethod .approval (look "PROPFIND")), ⟨World.withAnnsRequest, Sky.fair⟩) := by
  obtain ⟨refused, -⟩ :=
    only_the_methods_of_a_route_act 1000 (look "PROPFIND") ⟨World.withAnnsRequest, Sky.fair⟩
  exact refused .approval (by decide) (by decide)

/-- HEAD is not GET, and yet it is answered 200 and approves Ann's request. -/
theorem head_approves :
    Route.ofPath? (look "HEAD").path = some .approval ∧
      ∃ answer after,
        Scene.run (handle 1000 (look "HEAD")) ⟨World.withAnnsRequest, Sky.fair⟩ = (.ok answer, after) ∧
        answer.status = 200 ∧ World.withAnnsRequest.Decides "r1" "abc" .approve after.world := by
  refine ⟨by decide, _, _, rfl, rfl, ?_⟩
  exact .intro rfl rfl rfl rfl rfl rfl rfl

end ApprovalDesk.Http
