import ApprovalDesk.Proofs.Token.Check
import ApprovalDesk.Proofs.Workflow.Runs

/-!
# The gate behind an emailed link

A decision through a link is let through by two checks: the inspection looks at the token first, the
store looks at the record first. `linkResult` says in one table what comes of the two together, for
every state of token and record, with everything that changes; `run_process_eq_linkResult` says that
this is what a run of the call comes to.
-/

namespace ApprovalDesk

set_option autoImplicit false

open ApprovalDesk.Time ApprovalDesk.Workflow

/-- The record of a pending request after a decision through the link. -/
def Request.decidedByLink (r : Request) (d : Decision) (now : Instant) : Request :=
  match d with
  | .approve =>
    { r with
      status := .approved
      approvedAt := some now
      processedAt := some now
      processedVia := some .email
      approvedBy := some "email_link" }
  | .reject reason =>
    { r with
      status := .rejected
      rejectedAt := some now
      processedAt := some now
      rejectionReason := some reason
      processedVia := some .email
      rejectedBy := some "email_link" }

theorem Request.decided_emailLink (r : Request) (d : Decision) (now : Instant) :
    r.decided d .emailLink now = r.decidedByLink d now := by
  cases d <;> rfl

namespace World

/-- What a decision through a link comes to, and the world that it leaves behind. -/
def linkResult (w : World) (available : Bool) (ttl : Int) (id supplied : String) (d : Decision) :
    Except Crash (Except Failure Outcome) × World :=
  match w.store.tokens.find? id, w.store.requests.find? id with
  | some t, record =>
    if !available || t.secret != supplied then (.ok (.error .forbidden), w)
    else if t.used || t.isLate ttl w.now then
      match record with
      | some r =>
        if r.status.isTerminal then (.ok (.ok (.alreadyProcessed r.status)), w)
        else (.ok (.error .forbidden), w)
      | none => (.ok (.error .forbidden), w)
    else
      match record with
      | none => (.ok (.error requestNotFound), w)
      | some r =>
        if r.status.isTerminal then (.ok (.ok (.alreadyProcessed r.status)), w)
        else
          let after := r.decidedByLink d w.now
          let event := Event.statusChanged ⟨.pending, after⟩
          (.ok (.ok (.processed after)), { w with
            store := { w.store with
              requests := w.store.requests.insert id after
              tokens := w.store.tokens.insert id { t with used := true, usedAt := some w.now } }
            queue := if w.listening then w.queue ++ [event] else w.queue })
  | none, _ => (.ok (.error .forbidden), w)

/-- The world after a decision under a token that was not used before. -/
theorem settle_of_unused {w : World} {id : String} {t : Token} (after : Request)
    (token : w.store.tokens.find? id = some t) (unused : t.used = false) :
    w.settle id after = { w with
      store := { w.store with
        requests := w.store.requests.insert id after
        tokens := w.store.tokens.insert id { t with used := true, usedAt := some w.now } }
      queue := if w.listening then w.queue ++ [.statusChanged ⟨.pending, after⟩] else w.queue } := by
  have marked : t.markUsed w.now = { t with used := true, usedAt := some w.now } := by
    rw [Token.markUsed, unused, if_neg Bool.false_ne_true]
  rw [settle, announce, Table.modify, token]
  dsimp only
  rw [marked]
  cases w.listening <;> rfl

variable {w : World} {available : Bool} {ttl : Int} {id supplied : String} {t : Token}

theorem inspection_of_verdict {verdict : Verdict} (found : w.verdict ttl id supplied = .ok verdict) :
    w.inspection ttl id supplied = .ok (inspected verdict (w.lookUp id)) := by
  rw [inspection, found]
  rfl

/-- Who has not shown the right string is turned away. -/
theorem run_process_of_stranger {verdict : Verdict} (d : Decision)
    (found : w.verdict ttl id supplied = .ok verdict) (stranger : verdict.provesPossession = false) :
    w.run (process ttl id supplied d).run = (.ok (.error .forbidden), w) := by
  have turnedAway : w.inspection ttl id supplied = .ok (.error .forbidden) := by
    rw [inspection_of_verdict found]
    cases verdict with
    | missing | mismatch | unavailable => rfl
    | valid | spent | expired => cases stranger
  rw [run_process, turnedAway]

/-! ## The rows of the table -/

theorem run_process_of_missing (up : ∀ call, w.up call = available) (d : Decision)
    (missing : w.store.tokens.find? id = none) :
    w.run (process ttl id supplied d).run = w.linkResult available ttl id supplied d := by
  have verdict : w.verdict ttl id supplied = .ok (if available then .missing else .unavailable) := by
    rw [World.verdict, up, missing]
    cases available <;> rfl
  rw [linkResult, missing, run_process_of_stranger d verdict (by cases available <;> rfl)]

theorem run_process_of_barred (up : ∀ call, w.up call = available) (d : Decision)
    (token : w.store.tokens.find? id = some t)
    (barred : (!available || t.secret != supplied) = true) :
    w.run (process ttl id supplied d).run = w.linkResult available ttl id supplied d := by
  rw [linkResult, token]
  dsimp only
  rw [if_pos barred]
  cases available with
  | false =>
    have verdict : w.verdict ttl id supplied = .ok .unavailable := by
      rw [World.verdict, up]
      rfl
    exact run_process_of_stranger d verdict rfl
  | true =>
    have other : t.secret ≠ supplied := by simpa using barred
    have verdict : w.verdict ttl id supplied = .ok .mismatch := by
      rw [World.verdict, up, token]
      exact Token.check_of_mismatch ttl w.now other
    exact run_process_of_stranger d verdict rfl

section Owner

variable (up : ∀ call, w.up call = true) (token : w.store.tokens.find? id = some t)
  (own : t.secret = supplied) (dated : t.InCalendar ttl)

include up token own dated

/-- The verdict on the right string. -/
theorem verdict_of_owner : w.verdict ttl id supplied =
    .ok (if t.used then .spent else if t.isLate ttl w.now then .expired else .valid) := by
  rw [World.verdict, up, if_pos rfl, token]
  exact Token.check_of_match w.now own dated

theorem run_process_of_useless (d : Decision) (useless : (t.used || t.isLate ttl w.now) = true) :
    w.run (process ttl id supplied d).run = w.linkResult true ttl id supplied d := by
  have read : w.lookUp id = .ok (w.store.requests.find? id) := by rw [lookUp, up, if_pos rfl]
  have notBarred : ¬ (!true || t.secret != supplied) = true := by simp [own]
  obtain ⟨verdict, found, barred⟩ : ∃ verdict, w.verdict ttl id supplied = .ok verdict ∧
      (verdict = .spent ∨ verdict = .expired) := by
    rw [verdict_of_owner up token own dated]
    cases used : t.used with
    | true => exact ⟨.spent, rfl, Or.inl rfl⟩
    | false =>
      rw [used, Bool.false_or] at useless
      rw [useless]
      exact ⟨.expired, rfl, Or.inr rfl⟩
  rw [linkResult, run_process, inspection_of_verdict found, read, token]
  dsimp only
  rw [if_neg notBarred, if_pos useless]
  cases w.store.requests.find? id with
  | none => rcases barred with rfl | rfl <;> rfl
  | some r =>
    cases terminal : r.status.isTerminal <;> rcases barred with rfl | rfl <;>
      simp [inspected, terminal]

theorem run_process_of_usable (d : Decision) (usable : ¬ (t.used || t.isLate ttl w.now) = true) :
    w.run (process ttl id supplied d).run = w.linkResult true ttl id supplied d := by
  have read : w.lookUp id = .ok (w.store.requests.find? id) := by rw [lookUp, up, if_pos rfl]
  have notBarred : ¬ (!true || t.secret != supplied) = true := by simp [own]
  obtain ⟨unused, inTime⟩ : t.used = false ∧ t.isLate ttl w.now = false := by simpa using usable
  have valid : t.check supplied ttl w.now = .ok .valid := by
    rw [Token.check_of_match w.now own dated, unused, inTime]
    rfl
  have verdict : w.verdict ttl id supplied = .ok .valid := by
    rw [verdict_of_owner up token own dated, unused, inTime]
    rfl
  rw [linkResult, run_process, inspection_of_verdict verdict, read, token]
  dsimp only
  rw [if_neg notBarred, if_neg usable]
  cases record : w.store.requests.find? id with
  | none => rfl
  | some r =>
    cases terminal : r.status.isTerminal with
    | true => simp [inspected, terminal]
    | false =>
      have pending : r.status = .pending := Status.eq_pending (by simp [terminal])
      have guard : guardVerdict (w.store.tokens.find? id) (some ⟨supplied, ttl⟩) w.now =
          .ok .valid := by
        rw [token]
        exact valid
      have carried : w.run (commit id d .emailLink (some ⟨supplied, ttl⟩)).run = _ :=
        run_commit_carried (up _) record pending guard
      rw [settle_of_unused _ token unused, Request.decided_emailLink] at carried
      simp only [inspected, terminal, Bool.false_eq_true, if_false]
      exact carried

end Owner

/-- **The email gate is exact.** When both readings of the clock yield the same instant and the store
is either available or not for the whole call, a decision through a link comes to what the table
says, whatever is on record. -/
theorem run_process_eq_linkResult (w : World) (available : Bool)
    (up : ∀ call, w.up call = available) (ttl : Int) (id supplied : String) (d : Decision)
    (dated : ∀ t, w.store.tokens.find? id = some t → t.InCalendar ttl) :
    w.run (process ttl id supplied d).run = w.linkResult available ttl id supplied d := by
  cases token : w.store.tokens.find? id with
  | none => exact run_process_of_missing up d token
  | some t =>
    by_cases barred : (!available || t.secret != supplied) = true
    · exact run_process_of_barred up d token barred
    · obtain ⟨rfl, own⟩ : available = true ∧ t.secret = supplied := by simpa using barred
      by_cases useless : (t.used || t.isLate ttl w.now) = true
      · exact run_process_of_useless up token own (dated t token) d useless
      · exact run_process_of_usable up token own (dated t token) d useless

/-- An approval with the right string, in time. -/
theorem approval_through_the_link :
    (withAnnsRequest.run (process 1000 "r1" "abc" .approve).run).1 =
      .ok (.ok (.processed (annsRequest.decidedByLink .approve ⟨1, 0⟩))) := by
  have dated : ∀ t, withAnnsRequest.store.tokens.find? "r1" = some t → t.InCalendar 1000 := by
    intro t found
    obtain rfl : Token.new "r1" "abc" ⟨0, 0⟩ = t := Option.some.inj found
    exact rfl
  rw [run_process_eq_linkResult withAnnsRequest true (fun _ => rfl) 1000 "r1" "abc" .approve dated]
  rfl

end World

end ApprovalDesk
