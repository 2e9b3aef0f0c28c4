import ApprovalDesk.Proofs.Http.Steps
import ApprovalDesk.Proofs.Secret.Worlds
import ApprovalDesk.Proofs.Workflow.Calls

/-!
# What is asked without a token

A call that presents no token asks the same in two runs that differ in their secrets, but for the token
that a submission stores and announces, and its answer is made of replies that are the same in both. So
is the report of the dispatcher on announcements that differ in the token.
-/

namespace ApprovalDesk

set_option autoImplicit false

open ApprovalDesk.Dialogue

variable {s : Settings}

namespace Workflow

/-- A token is minted in both runs, and the two differ in the secret only; or in neither. -/
theorem mint_alike (id : String) :
    Alike (Step.Twins s) (fun a b => a.map Token.withoutSecret = b.map Token.withoutSecret)
      (mint id).run (mint id).run := by
  rw [mint_steps]
  refine .ask .drawSecret fun random random' same => ?_
  cases random with
  | none =>
    cases random' with
    | none => exact .done rfl
    | some block' => cases same
  | some block =>
    cases random' with
    | none => cases same
    | some block' =>
      refine .same .readClock fun now => .same .readClock fun later => .done ?_
      simp only [Except.map, Token.withoutSecret_new]

theorem submit_alike (data : Submission) :
    Alike (Step.Twins s) Eq (submit data).run (submit data).run := by
  rw [submit_steps]
  cases validateSubmission data with
  | error e => exact .done rfl
  | ok _ =>
    refine .same .drawId fun id => .same .readClock fun now => ?_
    refine (mint_alike id.write).bind fun minted minted' twins => ?_
    cases minted with
    | error e =>
      cases minted' with
      | error e' =>
        cases twins
        exact .done rfl
      | ok t' => cases twins
    | ok t =>
      cases minted' with
      | error e' => cases twins
      | ok t' =>
        refine .ask (.insertSubmission _ (Except.ok.inj twins)) fun reply _ same => ?_
        cases same
        rcases reply with e | _
        · exact .done rfl
        · exact .ask (.publish (.submitted ..)) fun _ _ _ => .done rfl

theorem find_alike (id : String) : Alike (Step.Twins s) Eq (find id).run (find id).run := by
  rw [find_steps]
  refine .same (.store rfl) fun reply => ?_
  rcases reply with e | _ | r <;> exact .done rfl

theorem markUsed_alike (id : String) : Alike (Step.Twins s) Eq (markUsed id) (markUsed id) := by
  rw [markUsed_steps]
  exact .same .readClock fun now => .same (.store rfl) fun marked => .done rfl

theorem processViaPanel_alike (id : String) (d : Decision) (adminId : String) :
    Alike (Step.Twins s) Eq (processViaPanel id d adminId).run (processViaPanel id d adminId).run := by
  rw [processViaPanel_steps]
  split
  · exact .done rfl
  · rw [commit_steps]
    refine .same .readClock fun now => .same (.store rfl) fun reply => ?_
    rcases reply with e | ⟨before, after⟩ | cause
    · exact .done rfl
    · exact .same (.publish (.statusChanged _)) fun _ => .done rfl
    · exact .done rfl

end Workflow

namespace Dispatch

theorem notify_alike (r : Request) (now : Time.Instant) :
    Alike (Step.Twins s) Eq (notify r now) (notify r now) := by
  unfold notify
  split
  · exact .done rfl
  · refine Alike.bind_eq (.single Step.Twins.drawId) fun id => ?_
    cases Notification.forDecision r id now with
    | none => exact .done rfl
    | some n => exact .same (.store rfl) fun reply => .done rfl

theorem certify_alike (r : Request) (now : Time.Instant) :
    Alike (Step.Twins s) Eq (certify r now) (certify r now) := by
  unfold certify
  split
  · exact .same (.store rfl) fun reply => .done rfl
  · exact .done rfl

theorem log_alike (r : Request) (now : Time.Instant) :
    Alike (Step.Twins s) Eq (log r now) (log r now) := by
  unfold log
  split
  · exact .done rfl
  · refine Alike.bind_eq (.single Step.Twins.drawId) fun id => ?_
    cases AuditEntry.forDecision r id now with
    | none => exact .done rfl
    | some e => exact .same (.store rfl) fun reply => .done rfl

/-- What a letter in one run and a letter in the other have to be like to be sent in the same place. -/
inductive Corresponding (s : Settings) :
    Except MailError (Option Letter) → Except MailError (Option Letter) → Prop where
  | unmade (e : MailError) : Corresponding s (.error e) (.error e)
  | unneeded : Corresponding s (.ok none) (.ok none)
  | made {l l' : Letter} (twins : l.Twins s l') : Corresponding s (.ok (some l)) (.ok (some l'))

theorem send_alike {letter letter' : Int → Except MailError (Option Letter)}
    (corresponding : ∀ year, Corresponding s (letter year) (letter' year)) :
    Alike (Step.Twins s) Eq (send letter) (send letter') := by
  refine Alike.bind_eq (.single Step.Twins.readClock) fun now => ?_
  have here := corresponding now.year
  generalize letter now.year = a at here
  generalize letter' now.year = b at here
  cases here with
  | unmade e => exact .done rfl
  | unneeded => exact .done rfl
  | made twins =>
    refine .ask (.deliver twins) fun reply _ same => ?_
    cases same
    exact .done rfl

/-- The dispatcher reports the same on announcements that differ in the token. -/
theorem handle_alike {e e' : Event} (twins : e.Twins e') :
    Alike (Step.Twins s) Eq (handle s e) (handle s e') := by
  cases twins with
  | submitted r token token' =>
    refine (send_alike fun year => ?_).bind_eq fun _ => .done rfl
    obtain ⟨e, unmade, unmade'⟩ | ⟨l, l', made, made', twins⟩ :=
      Letter.twins_newRequest s r token token' year
    · rw [unmade, unmade']
      exact .unmade e
    · rw [made, made']
      exact .made twins
  | statusChanged c =>
    have userDecision (year : Int) : Corresponding s (.ok (Letter.userDecision s c.after year))
        (.ok (Letter.userDecision s c.after year)) := by
      cases made : Letter.userDecision s c.after year with
      | none => exact .unneeded
      | some l => exact .made (.userDecision made)
    have adminConfirmation (year : Int) :
        Corresponding s (.ok (Letter.adminConfirmation s c.after year))
          (.ok (Letter.adminConfirmation s c.after year)) := by
      cases made : Letter.adminConfirmation s c.after year with
      | none => exact .unneeded
      | some l => exact .made (.adminConfirmation made)
    change Alike _ Eq (onStatusChange s c) (onStatusChange s c)
    unfold onStatusChange
    split
    · exact .done rfl
    · refine Alike.bind_eq (.single Step.Twins.readClock) fun now => ?_
      refine (notify_alike c.after now).bind_eq fun notification => ?_
      refine (certify_alike c.after now).bind_eq fun profileFlag => ?_
      refine (send_alike userDecision).bind_eq fun userEmail => ?_
      refine (send_alike adminConfirmation).bind_eq fun adminEmail => ?_
      exact (log_alike c.after now).map_eq _

end Dispatch

/-! ## Calls and requests that present no token -/

/-- A call that presents no token and is not told one. -/
def Call.isTokenless : Call → Bool
  | .submit _ | .find _ | .markUsed _ | .processViaPanel .. | .handle (.statusChanged _) => true
  | .inspect .. | .validate .. | .issue _ | .process .. | .handle (.submitted ..) => false

theorem Call.flow_alike {c : Call} (tokenless : c.isTokenless = true) :
    Alike (Step.Twins s) Eq (c.flow s) (c.flow s) := by
  cases c with
  | submit data => exact (Workflow.submit_alike data).map_eq _
  | find id => exact (Workflow.find_alike id).map_eq _
  | markUsed id => exact (Workflow.markUsed_alike id).map_eq _
  | processViaPanel id d adminId => exact (Workflow.processViaPanel_alike id d adminId).map_eq _
  | handle e =>
    cases e with
    | submitted r token => cases tokenless
    | statusChanged c => exact (Dispatch.handle_alike (.statusChanged c)).map_eq _
  | inspect | validate | issue | process => cases tokenless

namespace Http

open ApprovalDesk.Text

/-- A request that is not one to decide by a link, or does not give what such a link needs. -/
def Request.Tokenless (r : Request) : Prop :=
  Route.ofPath? r.path = some .approval ∨ Route.ofPath? r.path = some .rejection →
    ∀ id supplied, ¬ r.Presents id supplied

variable {r : Request} {ttl : Int}

theorem withLink_alike (unpresented : ∀ id supplied, ¬ r.Presents id supplied)
    (next : String → String → Flow Response) :
    Alike (Step.Twins s) Eq (withLink r next) (withLink r next) := by
  obtain ⟨id, supplied, presents, -⟩ | ⟨answer, -, refused⟩ := withLink_cases r next
  · exact absurd presents (unpresented id supplied)
  · rw [refused]
    exact .done rfl

theorem showHealth_alike : Alike (Step.Twins s) Eq showHealth showHealth :=
  .same (.store rfl) fun _ => .same .readClock fun _ => .done rfl

theorem showRequest_alike (segment : List Char) :
    Alike (Step.Twins s) Eq (showRequest segment) (showRequest segment) := by
  rw [showRequest_steps]
  split
  · exact .done rfl
  · exact (Workflow.find_alike _).map_eq _

theorem submit_alike : Alike (Step.Twins s) Eq (submit r) (submit r) := by
  rw [submit_steps]
  split
  · exact .done rfl
  · exact (Workflow.submit_alike _).map_eq _

theorem answerGet_alike {route : Route} (place : Route.ofPath? r.path = some route)
    (tokenless : r.Tokenless) : Alike (Step.Twins s) Eq (answerGet ttl r route) (answerGet ttl r route) := by
  cases route with
  | health => exact showHealth_alike
  | approval =>
    rw [answerGet, approve]
    exact withLink_alike (tokenless (.inl place)) _
  | rejection =>
    rw [answerGet, showRejectionForm]
    exact withLink_alike (tokenless (.inr place)) _
  | submissions => exact .done rfl
  | submission segment => exact showRequest_alike segment

theorem answerPost_alike {route : Route} (place : Route.ofPath? r.path = some route)
    (tokenless : r.Tokenless) :
    Alike (Step.Twins s) Eq (answerPost ttl r route) (answerPost ttl r route) := by
  cases route with
  | rejection =>
    rw [answerPost, reject]
    exact withLink_alike (tokenless (.inr place)) _
  | submissions => exact submit_alike
  | health | approval | submission => exact .done rfl

theorem handle_alike (tokenless : r.Tokenless) :
    Alike (Step.Twins s) Eq (handle ttl r) (handle ttl r) := by
  cases place : Route.ofPath? r.path with
  | none =>
    rw [handle_nowhere place]
    exact .done rfl
  | some route =>
    by_cases get : r.method = "GET"
    · rw [handle_get place get]
      exact answerGet_alike place tokenless
    by_cases head : r.method = "HEAD"
    · rw [handle_head place head]
      exact (answerGet_alike place tokenless).map_eq _
    by_cases post : r.method = "POST"
    · rw [handle_post place post]
      exact answerPost_alike place tokenless
    · rw [handle_other place get head post]
      exact .done rfl

end Http

end ApprovalDesk
