import ApprovalDesk.Proofs.Token.Check
import ApprovalDesk.Proofs.Workflow.Runs

/-!
# What an inspection foretells

A decision through a link is looked at twice. The inspection checks the string first and reads the
record only for whoever has shown the right one; the store reads the record first and checks the string
last. At one instant the two agree: `Foretold` lists, for each thing an inspection can find, the plans
that go with it. The last refusal in the plan, for a transition that fails after all, is never given
(`planWith_eq_plan`).
-/

namespace ApprovalDesk

set_option autoImplicit false

open ApprovalDesk.Time ApprovalDesk.Workflow

/-! ## The plan, case by case -/

section Plan

variable {r : Request} {token : Option Token} {d : Decision} {a : Actor} {g : Option Guard}
  {now : Instant}

/-- A pending request can be decided, whatever would be made of a failure. -/
theorem transition_mapError {ε : Type} (pending : r.status = .pending) (d : Decision) (a : Actor)
    (now : Instant) (late : Status → ε) :
    (r.transition d a now).mapError late = .ok (r.decided d a now) := by
  rw [Request.transition_eq_ok_iff.2 ⟨pending, rfl⟩]
  rfl

theorem plan_of_missing : plan none token d a g now = .ok (.error .notFound) := rfl

theorem plan_of_terminal (terminal : r.status.isTerminal = true) :
    plan (some r) token d a g now = .ok (.error (.alreadyProcessed r.status)) := by
  simp only [plan, terminal, if_true]

/-- A pending request is decided if the verdict is good, and the verdict is passed on if it is not. -/
theorem plan_of_pending {v : Verdict} (pending : r.status = .pending)
    (verdict : guardVerdict token g now = .ok v) :
    plan (some r) token d a g now =
      .ok (if v = .valid then .ok (r.decided d a now) else .error (.tokenRejected v)) := by
  have notTerminal : ¬ r.status.isTerminal = true := by
    rw [pending]
    decide
  have moves := transition_mapError pending d a now Refusal.alreadyProcessed
  rw [plan, if_neg notTerminal, verdict, moves]
  cases v <;> rfl

end Plan

/-- The plan of a decision, with `late` in place of the refusal that is given when the transition itself
fails. -/
def planWith (late : Status → Refusal) (request : Option Request) (token : Option Token)
    (decision : Decision) (actor : Actor) (guard : Option Guard) (now : Instant) :
    Except Crash (Except Refusal Request) :=
  match request with
  | none => .ok (.error .notFound)
  | some r =>
    if r.status.isTerminal then .ok (.error (.alreadyProcessed r.status))
    else
      (guardVerdict token guard now).map fun verdict =>
        if verdict.isValid then (r.transition decision actor now).mapError late
        else .error (.tokenRejected verdict)

/-- A transition is asked for only where it succeeds, so it makes no difference what would be answered
if it failed. -/
theorem planWith_eq_plan (late : Status → Refusal) (request : Option Request) (token : Option Token)
    (d : Decision) (a : Actor) (g : Option Guard) (now : Instant) :
    planWith late request token d a g now = plan request token d a g now := by
  cases request with
  | none => rfl
  | some r =>
    by_cases terminal : r.status.isTerminal = true
    · simp only [planWith, plan, terminal, if_true]
    · have pending := Status.eq_pending terminal
      simp only [planWith, plan, terminal, transition_mapError pending]

/-! ## The two checks -/

namespace World

variable {w : World} {ttl : Int} {id supplied : String}

/-- While the token can be read, the check of a string finds what the check inside a decision finds. -/
theorem verdict_eq_guardVerdict (up : w.up (.findToken id) = true) :
    w.verdict ttl id supplied =
      guardVerdict (w.store.tokens.find? id) (some ⟨supplied, ttl⟩) w.now := by
  rw [verdict, if_pos up]
  cases w.store.tokens.find? id with
  | none => rfl
  | some t => rfl

theorem exists_guardVerdict (dated : ∀ t, w.store.tokens.find? id = some t → t.InCalendar ttl)
    (supplied : String) :
    ∃ v, guardVerdict (w.store.tokens.find? id) (some ⟨supplied, ttl⟩) w.now = .ok v := by
  cases found : w.store.tokens.find? id with
  | none => exact ⟨.missing, rfl⟩
  | some t => exact Token.check_total (.inr (dated t found)) supplied w.now

end World

/-- What an inspection finds, beside the plan of a decision about the same record under the same
verdict. -/
inductive Foretold (record : Option Request) (v : Verdict) (d : Decision) (a : Actor) (now : Instant) :
    Except Failure Inspection → Except Refusal Request → Prop where
  | pending (r : Request) (found : record = some r) :
      Foretold record v d a now (.ok (.pending r)) (.ok (r.decided d a now))
  | alreadyProcessed (status : Status) :
      Foretold record v d a now (.ok (.alreadyProcessed status)) (.error (.alreadyProcessed status))
  | notFound : Foretold record v d a now (.error requestNotFound) (.error .notFound)
  | forbidden_missing (absent : record = none) :
      Foretold record v d a now (.error .forbidden) (.error .notFound)
  | forbidden_terminal (r : Request) (found : record = some r) (terminal : r.status.isTerminal = true) :
      Foretold record v d a now (.error .forbidden) (.error (.alreadyProcessed r.status))
  | forbidden_pending (r : Request) (found : record = some r) (pending : r.status = .pending)
      (invalid : v ≠ .valid) :
      Foretold record v d a now (.error .forbidden) (.error (.tokenRejected v))

/-- What is inspected under a verdict foretells what is planned under it. -/
theorem foretold_of_verdict {record : Option Request} {token : Option Token} {g : Option Guard}
    {v : Verdict} {now : Instant} (verdict : guardVerdict token g now = .ok v) (d : Decision)
    (a : Actor) :
    ∃ planned, plan record token d a g now = .ok planned ∧
      Foretold record v d a now (inspected v (.ok record)) planned := by
  cases record with
  | none =>
    refine ⟨_, plan_of_missing, ?_⟩
    cases v with
    | valid => exact .notFound
    | missing | mismatch | spent | expired | unavailable => exact .forbidden_missing rfl
  | some r =>
    by_cases terminal : r.status.isTerminal = true
    · refine ⟨_, plan_of_terminal terminal, ?_⟩
      cases v with
      | valid | spent | expired =>
        rw [inspected, if_pos terminal]
        exact .alreadyProcessed r.status
      | missing | mismatch | unavailable => exact .forbidden_terminal r rfl terminal
    · have pending := Status.eq_pending terminal
      refine ⟨_, plan_of_pending pending verdict, ?_⟩
      cases v with
      | valid =>
        rw [inspected, if_neg terminal]
        exact .pending r rfl
      | spent | expired =>
        rw [inspected, if_neg terminal]
        exact .forbidden_pending r rfl pending (by decide)
      | missing | mismatch | unavailable => exact .forbidden_pending r rfl pending (by decide)

/-- **An inspection foretells the decision.** While the store can be read and the end of the validity is
in the calendar, an inspection comes to an answer and changes nothing, and a decision that is planned at
the same instant under the same string comes to the answer that goes with it: what was found pending is
decided, what was found decided or missing is refused as such, and whoever was turned away is refused,
with the verdict of the check if the request is pending. Wherever a decision is planned, the refusal for
a transition that fails at last is never given. -/
theorem inspection_foretells_plan :
    (∀ (w : World) (ttl : Int) (id supplied : String),
      w.up (.findToken id) = true → w.up (.findRequest id) = true →
      (∀ t, w.store.tokens.find? id = some t → t.InCalendar ttl) →
      ∃ v found, w.run (check ttl id supplied) = (.ok v, w) ∧
        w.run (inspect ttl id supplied).run = (.ok found, w) ∧
        ∀ (d : Decision) (a : Actor), ∃ planned,
          plan (w.store.requests.find? id) (w.store.tokens.find? id) d a (some ⟨supplied, ttl⟩) w.now =
            .ok planned ∧
          Foretold (w.store.requests.find? id) v d a w.now found planned) ∧
    ∀ (late : Status → Refusal) (request : Option Request) (token : Option Token) (d : Decision)
      (a : Actor) (g : Option Guard) (now : Instant),
      planWith late request token d a g now = plan request token d a g now := by
  refine ⟨?agree, planWith_eq_plan⟩
  intro w ttl id supplied tokenUp requestUp dated
  obtain ⟨v, guard⟩ := World.exists_guardVerdict dated supplied
  have verdict : w.verdict ttl id supplied = .ok v := (World.verdict_eq_guardVerdict tokenUp).trans guard
  have read : w.lookUp id = .ok (w.store.requests.find? id) := by rw [World.lookUp, if_pos requestUp]
  have found : w.inspection ttl id supplied = .ok (inspected v (.ok (w.store.requests.find? id))) := by
    rw [World.inspection, verdict, read]
    rfl
  refine ⟨v, _, ?_, ?_, foretold_of_verdict guard⟩
  · rw [World.run_check, verdict]
  · rw [World.run_inspect, found]

/-- Ann's request is found pending with the right string, and its approval is planned; a wrong string is
turned away, and its approval is refused for that string. -/
theorem annsApproval_is_foretold :
    (∃ planned, plan (some World.annsRequest) (some (Token.new "r1" "abc" ⟨0, 0⟩)) .approve .emailLink
        (some ⟨"abc", 1000⟩) ⟨1, 0⟩ = .ok planned ∧
      Foretold (some World.annsRequest) .valid .approve .emailLink ⟨1, 0⟩
        (.ok (.pending World.annsRequest)) planned) ∧
    ∃ planned, plan (some World.annsRequest) (some (Token.new "r1" "abc" ⟨0, 0⟩)) .approve .emailLink
        (some ⟨"xyz", 1000⟩) ⟨1, 0⟩ = .ok planned ∧
      Foretold (some World.annsRequest) .mismatch .approve .emailLink ⟨1, 0⟩ (.error .forbidden)
        planned := by
  have dated : ∀ t, World.withAnnsRequest.store.tokens.find? "r1" = some t → t.InCalendar 1000 := by
    intro t found
    obtain rfl : Token.new "r1" "abc" ⟨0, 0⟩ = t := Option.some.inj found
    exact rfl
  obtain ⟨agree, -⟩ := inspection_foretells_plan
  constructor
  · obtain ⟨v, found, checked, inspected, foretold⟩ :=
      agree World.withAnnsRequest 1000 "r1" "abc" rfl rfl dated
    cases checked
    cases inspected
    exact foretold .approve .emailLink
  · obtain ⟨v, found, checked, inspected, foretold⟩ :=
      agree World.withAnnsRequest 1000 "r1" "xyz" rfl rfl dated
    cases checked
    cases inspected
    exact foretold .approve .emailLink

end ApprovalDesk
