import ApprovalDesk.Proofs.Workflow.Questions
import ApprovalDesk.Proofs.World.Frame

/-!
# Calls run alone

What each call comes to when it runs in a world without others: what it answers and how it leaves the
world. Checks and inspections change nothing; a decision either is carried out as a whole, with the
token used up and the event announced, or changes nothing.
-/

namespace ApprovalDesk

set_option autoImplicit false

open ApprovalDesk.Text ApprovalDesk.Time ApprovalDesk.Workflow

namespace World

variable {α : Type}

/-! ## Reading -/

/-- The verdict on a supplied string. -/
def verdict (w : World) (ttl : Int) (id supplied : String) : Except Crash Verdict :=
  if w.up (.findToken id) then
    match w.store.tokens.find? id with
    | some token => token.check supplied ttl w.now
    | none => .ok .missing
  else .ok .unavailable

/-- What a look-up of a request yields. -/
def lookUp (w : World) (id : String) : Except StoreError (Option Request) :=
  if w.up (.findRequest id) then .ok (w.store.requests.find? id) else .error .unavailable

theorem run_findRequest (w : World) (id : String)
    (next : Except StoreError (Option Request) → Flow α) :
    w.run (.ask (.store (.findRequest id)) next) = w.run (next (w.lookUp id)) := by
  cases up : w.up (.findRequest id) with
  | false =>
    rw [run_store_down up, lookUp, up]
    rfl
  | true =>
    rw [run_store_up up rfl, lookUp, up]
    rfl

theorem run_check (w : World) (ttl : Int) (id supplied : String) :
    w.run (check ttl id supplied) = (w.verdict ttl id supplied, w) := by
  rw [check_steps, verdict]
  cases up : w.up (.findToken id) with
  | false =>
    rw [run_store_down up]
    rfl
  | true =>
    rw [run_store_up up rfl, if_pos rfl]
    cases w.store.tokens.find? id with
    | none => rfl
    | some token =>
      dsimp only
      rw [run_readClock]
      cases token.check supplied ttl w.now <;> rfl

theorem run_validate (w : World) (ttl : Int) (id supplied : String) :
    w.run (validate ttl id supplied) = ((w.verdict ttl id supplied).map Verdict.isValid, w) := by
  unfold validate
  rw [run_bind, run_check]
  cases w.verdict ttl id supplied <;> rfl

/-- A string is valid if the store is up and the token on record says so. -/
theorem run_validate_eq_true_iff (w : World) (ttl : Int) (id supplied : String) :
    (w.run (validate ttl id supplied)).1 = .ok true ↔ w.up (.findToken id) = true ∧
      ∃ t, w.store.tokens.find? id = some t ∧ t.check supplied ttl w.now = .ok .valid := by
  rw [run_validate, verdict]
  cases w.up (.findToken id) with
  | false => simp [Except.map, Verdict.isValid]
  | true =>
    cases w.store.tokens.find? id with
    | none => simp [Except.map, Verdict.isValid]
    | some t => cases checked : t.check supplied ttl w.now <;> simp [Except.map, Verdict.isValid, checked]

/-- What an inspection finds. -/
def inspection (w : World) (ttl : Int) (id supplied : String) :
    Except Crash (Except Failure Inspection) :=
  (w.verdict ttl id supplied).map fun verdict => inspected verdict (w.lookUp id)

theorem run_inspect (w : World) (ttl : Int) (id supplied : String) :
    w.run (inspect ttl id supplied).run = (w.inspection ttl id supplied, w) := by
  rw [inspect_steps, run_bind, run_check, inspection]
  cases w.verdict ttl id supplied with
  | error c => rfl
  | ok verdict =>
    dsimp only
    cases verdict with
    | missing | mismatch | unavailable => rfl
    | valid | spent | expired => exact run_findRequest w id _

/-- A decision through the link goes on only if its inspection finds a pending request. -/
theorem run_process (w : World) (ttl : Int) (id supplied : String) (d : Decision) :
    w.run (process ttl id supplied d).run = match w.inspection ttl id supplied with
      | .ok (.ok (.pending _)) => w.run (commit id d .emailLink (some ⟨supplied, ttl⟩)).run
      | .ok (.ok (.alreadyProcessed status)) => (.ok (.ok (.alreadyProcessed status)), w)
      | .ok (.error e) => (.ok (.error e), w)
      | .error c => (.error c, w) := by
  rw [process_steps, run_bind, run_inspect]
  rcases w.inspection ttl id supplied with c | e | r | status <;> rfl

theorem announced_process (w : World) (ttl : Int) (id supplied : String) (d : Decision) :
    announced (process ttl id supplied d).run w = match w.inspection ttl id supplied with
      | .ok (.ok (.pending _)) => announced (commit id d .emailLink (some ⟨supplied, ttl⟩)).run w
      | _ => [] := by
  have quiet : announced (inspect ttl id supplied).run w = [] :=
    announced_of_quiet (inspect_quiet ttl id supplied) w
  rw [process_steps, announced_bind, quiet, run_inspect]
  rcases w.inspection ttl id supplied with c | e | r | status <;> rfl

/-! ## Deciding -/

/-- The world after the decision that leads to the record `after`. -/
def settle (w : World) (id : String) (after : Request) : World :=
  { w with store := { w.store with
      requests := w.store.requests.insert id after
      tokens := w.store.tokens.modify id (·.markUsed w.now) } }.announce
    (.statusChanged ⟨.pending, after⟩)

section Commit

variable {w : World} {id : String} {d : Decision} {a : Actor} {g : Option Guard} {r : Request}

/-- The store carries a decision out that can be carried out. -/
theorem answer_commit_carried (found : w.store.requests.find? id = some r)
    (pending : r.status = .pending)
    (guard : guardVerdict (w.store.tokens.find? id) g w.now = .ok .valid) :
    w.store.answer (.commit id d a g w.now) =
      .ok (.ok (.committed .pending (r.decided d a w.now)), { w.store with
        requests := w.store.requests.insert id (r.decided d a w.now)
        tokens := w.store.tokens.modify id (·.markUsed w.now) }) := by
  rw [Store.answer, Store.commit_of_pending found pending guard]
  rfl

/-- A decision that can be carried out is. -/
theorem run_commit_carried (up : w.up (.commit id d a g w.now) = true)
    (found : w.store.requests.find? id = some r) (pending : r.status = .pending)
    (guard : guardVerdict (w.store.tokens.find? id) g w.now = .ok .valid) :
    w.run (commit id d a g).run =
      (.ok (.ok (.processed (r.decided d a w.now))), w.settle id (r.decided d a w.now)) := by
  rw [commit_steps, run_readClock, run_store_up up (answer_commit_carried found pending guard)]
  rfl

theorem announced_commit_carried (up : w.up (.commit id d a g w.now) = true)
    (found : w.store.requests.find? id = some r) (pending : r.status = .pending)
    (guard : guardVerdict (w.store.tokens.find? id) g w.now = .ok .valid) :
    announced (commit id d a g).run w = [.statusChanged ⟨.pending, r.decided d a w.now⟩] := by
  rw [commit_steps, announced_readClock,
    announced_store_up up (answer_commit_carried found pending guard)]
  rfl

/-- A decision that the store answers without carrying it out changes nothing. -/
theorem run_commit_refused {cause : Refusal} (up : w.up (.commit id d a g w.now) = true)
    (answered : w.store.answer (.commit id d a g w.now) = .ok (.ok (.refused cause), w.store)) :
    w.run (commit id d a g).run = (.ok (told (.ok (.refused cause))), w) ∧
      announced (commit id d a g).run w = [] := by
  rw [commit_steps, run_readClock, run_store_up up answered, announced_readClock,
    announced_store_up up answered]
  cases cause <;> exact ⟨rfl, rfl⟩

/-- A decision is carried out as a whole and announced, or changes nothing. -/
theorem run_commit_cases (w : World) (id : String) (d : Decision) (a : Actor) (g : Option Guard) :
    (∃ r, w.store.requests.find? id = some r ∧ r.status = .pending ∧
      guardVerdict (w.store.tokens.find? id) g w.now = .ok .valid ∧
      w.run (commit id d a g).run =
        (.ok (.ok (.processed (r.decided d a w.now))), w.settle id (r.decided d a w.now)) ∧
      announced (commit id d a g).run w = [.statusChanged ⟨.pending, r.decided d a w.now⟩]) ∨
    ∃ out, w.run (commit id d a g).run = (out, w) ∧ announced (commit id d a g).run w = [] ∧
      ∀ r, out ≠ .ok (.ok (.processed r)) := by
  cases up : w.up (.commit id d a g w.now) with
  | false =>
    have refused : w.run (commit id d a g).run = (.ok (.error (.storage .unavailable)), w) := by
      rw [commit_steps, run_readClock, run_store_down up]
      rfl
    have silent : announced (commit id d a g).run w = [] := by
      rw [commit_steps, announced_readClock, announced_store_down up]
      rfl
    exact Or.inr ⟨_, refused, silent, by simp⟩
  | true =>
    have ends := w.store.commit_cases id d a g w.now
    cases result : w.store.commit id d a g w.now with
    | error c =>
      have crash : w.store.answer (.commit id d a g w.now) = .error c := by
        rw [Store.answer, result]
        rfl
      have crashed : w.run (commit id d a g).run = (.error c, w) := by
        rw [commit_steps, run_readClock, run_store_crash up crash]
      have silent : announced (commit id d a g).run w = [] := by
        rw [commit_steps, announced_readClock, announced_store_crash up crash]
      exact Or.inr ⟨_, crashed, silent, by simp⟩
    | ok pair =>
      have answered : w.store.answer (.commit id d a g w.now) = .ok (.ok pair.1, pair.2) := by
        rw [Store.answer, result]
        rfl
      rw [result] at ends
      cases ends with
      | missing | settled | barred =>
        obtain ⟨refused, silent⟩ := run_commit_refused up answered
        exact Or.inr ⟨_, refused, silent, by simp [told]⟩
      | carried r found pending guard =>
        exact Or.inl ⟨r, found, pending, guard, run_commit_carried up found pending guard,
          announced_commit_carried up found pending guard⟩

end Commit

end World

end ApprovalDesk
