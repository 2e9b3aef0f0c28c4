import ApprovalDesk.Proofs.Http.Steps
import ApprovalDesk.Proofs.Workflow.Link

/-!
# Refused links reveal nothing

A link can fail for many reasons: nobody issued a token, the string is not the one on record, the store
cannot be read, or the token is of no use any more and the request still waits. Whoever follows such a
link is answered the same in all of these cases, and nothing changes. What the store says of a decided
request before it looks at the token is never told, because every handler inspects the string first.
-/

namespace ApprovalDesk

set_option autoImplicit false

open ApprovalDesk.Workflow

namespace World

/-- Why a supplied string is refused: the store is down, the request has no token, the string is not the
one on record, or it is, but the token is used or late and the request has not been decided. -/
inductive Refuses (w : World) (ttl : Int) (id supplied : String) : Prop where
  | down (down : w.up (.findToken id) = false)
  | unknown (missing : w.store.tokens.find? id = none)
  | mismatch {t : Token} (token : w.store.tokens.find? id = some t) (other : t.secret ≠ supplied)
  | useless {t : Token} (token : w.store.tokens.find? id = some t) (own : t.secret = supplied)
      (useless : t.used = true ∨ t.isLate ttl w.now = true)
      (undecided : ∀ r, w.store.requests.find? id = some r → r.status = .pending)

variable {w : World} {ttl : Int} {id supplied : String}

/-- Who does not supply the string on record is refused, whatever is on record about the request. -/
theorem refuses_of_stranger (ttl : Int)
    (stranger : ∀ t, w.store.tokens.find? id = some t → t.secret ≠ supplied) :
    w.Refuses ttl id supplied := by
  cases token : w.store.tokens.find? id with
  | none => exact .unknown token
  | some t => exact .mismatch token (stranger t token)

/-- An inspection tells nothing of an undecided request to whoever supplies a useless string. -/
theorem inspected_of_undecided {verdict : Verdict} (useless : verdict = .spent ∨ verdict = .expired)
    (undecided : ∀ r, w.store.requests.find? id = some r → r.status = .pending) :
    inspected verdict (w.lookUp id) = .error .forbidden := by
  have waiting : w.lookUp id = .error .unavailable ∨ w.lookUp id = .ok none ∨
      ∃ r, w.lookUp id = .ok (some r) ∧ r.status = .pending := by
    rw [lookUp]
    cases w.up (.findRequest id) with
    | false => exact Or.inl rfl
    | true =>
      cases record : w.store.requests.find? id with
      | none => exact Or.inr (Or.inl rfl)
      | some r => exact Or.inr (Or.inr ⟨r, rfl, undecided r record⟩)
  rcases waiting with failed | absent | ⟨r, found, pending⟩
  · rw [failed]
    rcases useless with rfl | rfl <;> rfl
  · rw [absent]
    rcases useless with rfl | rfl <;> rfl
  · rw [found]
    rcases useless with rfl | rfl <;> simp [inspected, pending, Status.isTerminal]

/-- All refusals look alike to the inspection. -/
theorem Refuses.inspection (refused : w.Refuses ttl id supplied) :
    w.inspection ttl id supplied = .ok (.error .forbidden) := by
  cases up : w.up (.findToken id) with
  | false =>
    have verdict : w.verdict ttl id supplied = .ok .unavailable := by
      rw [World.verdict, up]
      rfl
    rw [inspection_of_verdict verdict]
    rfl
  | true =>
    cases refused with
    | down down => rw [up] at down; cases down
    | unknown missing =>
      have verdict : w.verdict ttl id supplied = .ok .missing := by
        rw [World.verdict, up, missing]
        rfl
      rw [inspection_of_verdict verdict]
      rfl
    | mismatch token other =>
      have verdict : w.verdict ttl id supplied = .ok .mismatch := by
        rw [World.verdict, up, token]
        exact Token.check_of_mismatch ttl w.now other
      rw [inspection_of_verdict verdict]
      rfl
    | @useless t token own useless undecided =>
      have verdict : w.verdict ttl id supplied = t.check supplied ttl w.now := by
        rw [World.verdict, up, token]
        rfl
      rcases Token.check_of_useless own useless with spent | expired
      · rw [inspection_of_verdict (verdict.trans spent), inspected_of_undecided (Or.inl rfl) undecided]
      · rw [inspection_of_verdict (verdict.trans expired), inspected_of_undecided (Or.inr rfl) undecided]

theorem Refuses.run_inspect (refused : w.Refuses ttl id supplied) :
    w.run (inspect ttl id supplied).run = (.ok (.error .forbidden), w) := by
  rw [World.run_inspect, refused.inspection]

theorem Refuses.run_process (refused : w.Refuses ttl id supplied) (d : Decision) :
    w.run (process ttl id supplied d).run = (.ok (.error .forbidden), w) := by
  rw [World.run_process, refused.inspection]

end World

namespace Http

open ApprovalDesk.Text

/-- The request follows a link: to approve, to be shown the form, or to reject for a reason. -/
inductive Request.Follows (r : Request) (id supplied : String) : Prop where
  | approve (presents : r.Presents id supplied) (method : r.method = "GET")
      (path : Route.ofPath? r.path = some .approval)
  | form (presents : r.Presents id supplied) (method : r.method = "GET")
      (path : Route.ofPath? r.path = some .rejection)
  | reject (presents : r.Presents id supplied) (method : r.method = "POST")
      (path : Route.ofPath? r.path = some .rejection) (reason : isBlankText (reasonOf r) = false)

variable {w : World} {ttl : Int} {r : Request} {id supplied : String}

/-- Every refusal is answered alike, on all three ways to follow a link. -/
theorem Request.Follows.run_refused (follows : r.Follows id supplied)
    (refused : w.Refuses ttl id supplied) :
    w.run (handle ttl r) = (.ok (respondFailure .forbidden r.format), w) := by
  cases follows with
  | approve presents method path =>
    rw [handle_get path method, answerGet, Http.approve, withLink_of_presents presents, decide_steps,
      World.run_map, refused.run_process]
    rfl
  | form presents method path =>
    rw [handle_get path method, answerGet, showRejectionForm_steps, withLink_of_presents presents,
      World.run_map, refused.run_inspect]
    rfl
  | reject presents method path reason =>
    rw [handle_post path method, answerPost, reject_steps, withLink_of_presents presents, reason,
      if_neg Bool.false_ne_true, decide_steps, World.run_map, refused.run_process]
    rfl

/-- **A refused link reveals nothing.** Two callers who accept the same kind of answer and follow links
that are refused, whatever is on record and for whatever reason, get the same answer, and nothing
changes. What is said to somebody without the string on record does not depend on the requests. -/
theorem refused_link_reveals_nothing (ttl : Int) :
    (∀ (v w : World) (q r : Request) (id supplied id' supplied' : String),
      q.Follows id supplied → r.Follows id' supplied' → q.header? "accept" = r.header? "accept" →
      v.Refuses ttl id supplied → w.Refuses ttl id' supplied' →
      ∃ answer, answer.status = 403 ∧
        v.run (handle ttl q) = (.ok answer, v) ∧ w.run (handle ttl r) = (.ok answer, w)) ∧
    ∀ (w : World) (r : Request) (id supplied : String), r.Follows id supplied →
      (∀ t, w.store.tokens.find? id = some t → t.secret ≠ supplied) →
      ∀ requests : Table ApprovalDesk.Request,
        ({ w with store := { w.store with requests } }.run (handle ttl r)).1 =
          (w.run (handle ttl r)).1 := by
  constructor
  · intro v w q r id supplied id' supplied' follows follows' accept refused refused'
    have format : q.format = r.format := congrArg Format.ofAccept accept
    refine ⟨respondFailure .forbidden r.format, respondFailure_status .forbidden r.format, ?_,
      follows'.run_refused refused'⟩
    rw [follows.run_refused refused, format]
  · intro w r id supplied follows stranger requests
    have refused : w.Refuses ttl id supplied := World.refuses_of_stranger ttl stranger
    have refused' : ({ w with store := { w.store with requests } } : World).Refuses ttl id supplied :=
      World.refuses_of_stranger ttl stranger
    rw [follows.run_refused refused, follows.run_refused refused']

/-- Somebody with a wrong string follows the link that approves Ann's request. -/
def guess : Request where
  method := "GET"
  target := "/processApproval?requestId=r1&token=xyz"
  headers := [("Accept", Utf8.encode "application/json")]
  body := []

/-- Somebody rejects a request of which nothing is on record. -/
def stray : Request where
  method := "POST"
  target := "/processRejection?token=abc&requestId=r+2"
  headers := [("content-type", Utf8.encode "application/x-www-form-urlencoded"),
    ("accept", Utf8.encode "application/json")]
  body := Utf8.encode "rejectionReason=no+receipt"

theorem guess_follows : guess.Follows "r1" "xyz" :=
  .approve ⟨rfl, by decide, by decide⟩ rfl (by decide)

theorem stray_follows : stray.Follows "r 2" "abc" :=
  .reject ⟨rfl, by decide, by decide⟩ rfl (by decide) (by decide)

/-- Ann's request is on record, and the other one is not; the answers are the same, and so is the answer
to the guess if nothing is on record of Ann's request but its token. -/
theorem refusals_look_alike :
    (∃ answer, answer.status = 403 ∧
      World.withAnnsRequest.run (handle 1000 guess) = (.ok answer, World.withAnnsRequest) ∧
      (World.quiet .empty ⟨0, 0⟩).run (handle 1000 stray) = (.ok answer, World.quiet .empty ⟨0, 0⟩)) ∧
    ({ World.withAnnsRequest with
      store := { World.withAnnsRequest.store with requests := .empty } }.run (handle 1000 guess)).1 =
        (World.withAnnsRequest.run (handle 1000 guess)).1 := by
  obtain ⟨alike, unaffected⟩ := refused_link_reveals_nothing 1000
  have stranger : ∀ t, World.withAnnsRequest.store.tokens.find? "r1" = some t → t.secret ≠ "xyz" := by
    rintro t ⟨⟩
    decide
  refine ⟨alike _ _ guess stray _ _ _ _ guess_follows stray_follows rfl ?_ (.unknown rfl), ?_⟩
  · exact World.refuses_of_stranger 1000 stranger
  · exact unaffected _ guess _ _ guess_follows stranger .empty

end Http

end ApprovalDesk
