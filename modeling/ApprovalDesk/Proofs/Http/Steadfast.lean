import ApprovalDesk.Proofs.Dispatch.Steps
import ApprovalDesk.Proofs.Http.Steps
import ApprovalDesk.Proofs.Token.Check
import ApprovalDesk.Proofs.Workflow.Calls

/-!
# What keeps the desk from crashing

The one thing that can go wrong is the check of a token whose validity ends beyond the calendar. A flow
is steadfast if it does not crash as long as the validity of every token that it is shown ends within,
and if the store checks tokens against the same validity on its behalf. All calls to the workflow are,
and so is every answer over HTTP.
-/

namespace ApprovalDesk

set_option autoImplicit false

open ApprovalDesk.Dialogue ApprovalDesk.Text ApprovalDesk.Workflow

namespace Step

/-- The string that comes with a decision is checked against this validity. -/
def Guarded (ttl : Int) : Step → Prop
  | .store (.commit _ _ _ (some g) _) => g.ttl = ttl
  | _ => True

/-- The validity of a token that is found ends within the calendar. -/
def Dated (ttl : Int) : (q : Step) → q.Reply → Prop
  | .store (.findToken _), .ok (some t) => t.InCalendar ttl
  | _, _ => True

theorem guarded_of_followsUp {ttl : Int} {q : Step} (followsUp : q.followsUp = true) :
    q.Guarded ttl := by
  cases q with
  | store call => cases call <;> trivial
  | readClock | drawId | drawSecret | publish | deliver => trivial

end Step

/-- The flow does not crash while the validity of every token that it is shown ends within the
calendar. -/
def Steadfast {α : Type} (ttl : Int) (f : Flow α) : Prop := f.Safe (Step.Guarded ttl) (Step.Dated ttl)

namespace Workflow

variable {ttl : Int}

/-- A check of a token whose validity ends within the calendar comes to a verdict. -/
theorem check_steadfast (id supplied : String) : Steadfast ttl (check ttl id supplied) := by
  rw [check_steps]
  refine .ask trivial fun reply dated => ?_
  rcases reply with e | _ | token
  · exact .done _
  · exact .done _
  · refine .ask trivial fun now _ => ?_
    obtain ⟨verdict, checked⟩ := Token.check_total (.inr dated) supplied now
    rw [checked]
    exact .done verdict

theorem validate_steadfast (id supplied : String) : Steadfast ttl (validate ttl id supplied) :=
  (check_steadfast id supplied).bind fun _ => .done _

theorem find_steadfast (id : String) : Steadfast ttl (find id).run := by
  rw [find_steps]
  refine .ask trivial fun reply _ => ?_
  rcases reply with e | _ | r <;> exact .done _

theorem inspect_steadfast (id supplied : String) : Steadfast ttl (inspect ttl id supplied).run := by
  rw [inspect_steps]
  refine (check_steadfast id supplied).bind fun verdict => ?_
  split
  · exact .ask trivial fun reply _ => .done _
  · exact .done _

theorem commit_steadfast {g : Option Guard} (own : ∀ guard, g = some guard → guard.ttl = ttl)
    (id : String) (d : Decision) (a : Actor) : Steadfast ttl (commit id d a g).run := by
  rw [commit_steps]
  refine .ask trivial fun now _ => .ask ?_ fun reply _ => ?_
  · cases g with
    | none => trivial
    | some guard => exact own guard rfl
  · rcases reply with e | ⟨before, after⟩ | refusal
    · exact .done _
    · exact .ask trivial fun _ _ => .done _
    · exact .done _

theorem process_steadfast (id supplied : String) (d : Decision) :
    Steadfast ttl (process ttl id supplied d).run := by
  rw [process_steps]
  refine (inspect_steadfast id supplied).bind fun result => ?_
  rcases result with e | r | status
  · exact .done _
  · exact commit_steadfast (fun guard same => by cases same; rfl) id d .emailLink
  · exact .done _

theorem processViaPanel_steadfast (id : String) (d : Decision) (adminId : String) :
    Steadfast ttl (processViaPanel id d adminId).run := by
  rw [processViaPanel_steps]
  split
  · exact .done _
  · exact commit_steadfast (fun guard same => by cases same) id d _

theorem markUsed_steadfast (id : String) : Steadfast ttl (markUsed id) := by
  rw [markUsed_steps]
  exact .ask trivial fun now _ => .ask trivial fun reply _ => .done _

theorem mint_steadfast (id : String) : Steadfast ttl (mint id).run := by
  rw [mint_steps]
  refine .ask trivial fun random _ => ?_
  cases random with
  | none => exact .done _
  | some random => exact .ask trivial fun now _ => .ask trivial fun later _ => .done _

theorem issue_steadfast (id : String) : Steadfast ttl (issue id).run := by
  rw [issue_steps]
  refine (mint_steadfast id).bind fun result => ?_
  cases result with
  | error e => exact .done _
  | ok token =>
    refine .ask trivial fun reply _ => ?_
    rcases reply with e | _ | _ <;> exact .done _

theorem submit_steadfast (data : Submission) : Steadfast ttl (submit data).run := by
  rw [submit_steps]
  cases validateSubmission data with
  | error e => exact .done _
  | ok _ =>
    refine .ask trivial fun id _ => .ask trivial fun now _ => ?_
    refine (mint_steadfast id.write).bind fun result => ?_
    cases result with
    | error e => exact .done _
    | ok token =>
      refine .ask trivial fun reply _ => ?_
      rcases reply with e | _
      · exact .done _
      · exact .ask trivial fun _ _ => .done _

end Workflow

theorem Dispatch.handle_steadfast (ttl : Int) (s : Settings) (e : Event) :
    Steadfast ttl (Dispatch.handle s e) :=
  (handle_followsUp s e).mono (fun _ => Step.guarded_of_followsUp) fun _ _ _ => trivial

/-- **Every call is steadfast.** -/
theorem Call.flow_steadfast (s : Settings) (c : Call) : Steadfast s.tokenTtl (c.flow s) := by
  cases c with
  | submit data => exact (submit_steadfast data).map
  | find id => exact (find_steadfast id).map
  | inspect id supplied => exact (inspect_steadfast id supplied).map
  | validate id supplied => exact (validate_steadfast id supplied).map
  | issue id => exact (issue_steadfast id).map
  | markUsed id => exact (markUsed_steadfast id).map
  | process id supplied d => exact (process_steadfast id supplied d).map
  | processViaPanel id d adminId => exact (processViaPanel_steadfast id d adminId).map
  | handle event => exact (Dispatch.handle_steadfast s.tokenTtl s event).map

namespace Http

variable {ttl : Int} {r : Request}

theorem withLink_steadfast {next : String → String → Flow Response}
    (rest : ∀ id supplied, Steadfast ttl (next id supplied)) : Steadfast ttl (withLink r next) := by
  rcases withLink_cases r next with ⟨id, supplied, -, followed⟩ | ⟨answer, -, refused⟩
  · rw [followed]
    exact rest id supplied
  · rw [refused]
    exact .done answer

theorem decide_steadfast (format : Format) (id supplied : String) (d : Decision) :
    Steadfast ttl (decide ttl format id supplied d) := by
  rw [decide_steps]
  exact (process_steadfast id supplied d).map

theorem approve_steadfast (ttl : Int) (r : Request) : Steadfast ttl (approve ttl r) :=
  withLink_steadfast fun id supplied => decide_steadfast r.format id supplied .approve

theorem reject_steadfast (ttl : Int) (r : Request) : Steadfast ttl (reject ttl r) := by
  rw [reject_steps]
  refine withLink_steadfast fun id supplied => ?_
  split
  · exact .done _
  · exact decide_steadfast r.format id supplied _

theorem showRejectionForm_steadfast (ttl : Int) (r : Request) :
    Steadfast ttl (showRejectionForm ttl r) := by
  rw [showRejectionForm_steps]
  exact withLink_steadfast fun id supplied => (inspect_steadfast id supplied).map

theorem submission_steadfast (r : Request) : Steadfast ttl (submit r) := by
  rw [submit_steps]
  cases submissionOf? r with
  | none => exact .done _
  | some data => exact (submit_steadfast data).map

theorem showRequest_steadfast (segment : List Char) : Steadfast ttl (showRequest segment) := by
  rw [showRequest_steps]
  cases Utf8.decode? (Percent.decode (Utf8.encodeChars segment)) with
  | none => exact .done _
  | some id => exact (find_steadfast id).map

theorem answerGet_steadfast (route : Route) : Steadfast ttl (answerGet ttl r route) := by
  cases route with
  | health => exact .ask trivial fun reply _ => .ask trivial fun now _ => .done _
  | approval => exact approve_steadfast ttl r
  | rejection => exact showRejectionForm_steadfast ttl r
  | submission segment => exact showRequest_steadfast segment
  | submissions => exact .done _

theorem answerPost_steadfast (route : Route) : Steadfast ttl (answerPost ttl r route) := by
  cases route with
  | rejection => exact reject_steadfast ttl r
  | submissions => exact submission_steadfast r
  | health | approval | submission => exact .done _

/-- **Every answer over HTTP is steadfast.** -/
theorem handle_steadfast (ttl : Int) (r : Request) : Steadfast ttl (handle ttl r) := by
  cases path : Route.ofPath? r.path with
  | none =>
    rw [handle_nowhere path]
    exact .done _
  | some route =>
    by_cases get : r.method = "GET"
    · rw [handle_get path get]
      exact answerGet_steadfast route
    by_cases head : r.method = "HEAD"
    · rw [handle_head path head]
      have asIfGet : Steadfast ttl (answerGet ttl r route) := answerGet_steadfast route
      exact asIfGet.map
    by_cases post : r.method = "POST"
    · rw [handle_post path post]
      exact answerPost_steadfast route
    · rw [handle_other path get head post]
      exact .done _

end Http

end ApprovalDesk
