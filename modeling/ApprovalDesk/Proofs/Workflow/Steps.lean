import ApprovalDesk.Workflow

/-!
# The steps of each call

Every call to the workflow, written out as the steps it takes and what it does with each reply. These
forms are all that later proofs need of the calls: running one alone and running it among others both
read them step by step.
-/

namespace ApprovalDesk.Workflow

set_option autoImplicit false

open ApprovalDesk.Text ApprovalDesk.Time

/-- Steps that cannot fail, then an attempt. -/
theorem run_flow_bind {α β : Type} (x : Flow α) (f : α → Attempt β) :
    ((x : Attempt α) >>= f).run = x >>= fun a => (f a).run := by
  simp [ExceptT.run_bind]

/-- A check reads the token, then the clock. -/
theorem check_steps (ttl : Int) (id supplied : String) :
    check ttl id supplied = .ask (.store (.findToken id)) fun
      | .ok (some token) =>
        .ask .readClock fun now => Dialogue.ofExcept (token.check supplied ttl now)
      | .ok none => .done .missing
      | .error _ => .done .unavailable := by
  unfold check
  refine congrArg (Dialogue.ask (Step.store (.findToken id))) (funext fun reply => ?_)
  rcases reply with e | ⟨_ | token⟩ <;> rfl

theorem find_steps (id : String) :
    (find id).run = .ask (.store (.findRequest id)) fun
      | .ok (some r) => .done (.ok r)
      | .ok none => .done (.error requestNotFound)
      | .error e => .done (.error (.storage e)) := by
  unfold find
  refine congrArg (Dialogue.ask (Step.store (.findRequest id))) (funext fun reply => ?_)
  rcases reply with e | ⟨_ | r⟩ <;> rfl

/-- What the holder of a string is told, by the verdict on the string and the look-up of the request. -/
def inspected : Verdict → Except StoreError (Option Request) → Except Failure Inspection
  | .valid, .ok (some r) =>
    if r.status.isTerminal then .ok (.alreadyProcessed r.status) else .ok (.pending r)
  | .valid, .ok none => .error requestNotFound
  | .valid, .error e => .error (.storage e)
  | .spent, .ok (some r) | .expired, .ok (some r) =>
    if r.status.isTerminal then .ok (.alreadyProcessed r.status) else .error .forbidden
  | _, _ => .error .forbidden

/-- An inspection checks the string; it reads the request only for whoever has shown the right one. -/
theorem inspect_steps (ttl : Int) (id supplied : String) :
    (inspect ttl id supplied).run = check ttl id supplied >>= fun verdict =>
      if verdict.provesPossession then
        .ask (.store (.findRequest id)) fun reply => .done (inspected verdict reply)
      else .done (.error .forbidden) := by
  unfold inspect
  rw [run_flow_bind]
  refine congrArg (check ttl id supplied >>= ·) (funext fun verdict => ?_)
  cases verdict with
  | missing | mismatch | unavailable => rfl
  | valid =>
    change ExceptT.run (find id >>= _) = _
    rw [ExceptT.run_bind, find_steps]
    refine congrArg (Dialogue.ask (Step.store (.findRequest id))) (funext fun reply => ?_)
    rcases reply with e | ⟨_ | r⟩
    · rfl
    · rfl
    · change ExceptT.run (if r.status.isTerminal then pure (.alreadyProcessed r.status)
        else pure (.pending r) : Attempt Inspection) = .done (inspected .valid (.ok (some r)))
      cases terminal : r.status.isTerminal <;> simp only [inspected, terminal] <;> rfl
  | spent | expired =>
    refine congrArg (Dialogue.ask (Step.store (.findRequest id))) (funext fun reply => ?_)
    rcases reply with e | ⟨_ | r⟩
    · rfl
    · rfl
    · change ExceptT.run (if r.status.isTerminal then pure (.alreadyProcessed r.status)
        else throw .forbidden : Attempt Inspection) = .done (inspected _ (.ok (some r)))
      cases terminal : r.status.isTerminal <;> simp only [inspected, terminal] <;> rfl

/-- What the caller is told of a decision, by the reply of the store. -/
def told : Except StoreError CommitOutcome → Except Failure Outcome
  | .ok (.committed _ after) => .ok (.processed after)
  | .ok (.refused (.alreadyProcessed status)) => .ok (.alreadyProcessed status)
  | .ok (.refused (.tokenRejected _)) => .error .forbidden
  | .ok (.refused .notFound) => .error requestNotFound
  | .error e => .error (.storage e)

/-- What is left of a decision when the store has replied. -/
def conclude : Except StoreError CommitOutcome → Flow (Except Failure Outcome)
  | .ok (.committed before after) =>
    .ask (.publish (.statusChanged ⟨before, after⟩)) fun _ => .done (.ok (.processed after))
  | reply => .done (told reply)

/-- A decision reads the clock, asks the store to carry it out, and is announced if it was. -/
theorem commit_steps (id : String) (d : Decision) (a : Actor) (g : Option Guard) :
    (commit id d a g).run = .ask .readClock fun now =>
      .ask (.store (.commit id d a g now)) conclude := by
  unfold commit
  refine congrArg (Dialogue.ask Step.readClock) (funext fun now => ?_)
  refine congrArg (Dialogue.ask (Step.store (.commit id d a g now))) (funext fun reply => ?_)
  rcases reply with e | ⟨⟨before, after⟩ | ⟨_ | _ | _⟩⟩ <;> rfl

/-- A decision through the link is an inspection, and goes on only if that finds a pending request. -/
theorem process_steps (ttl : Int) (id supplied : String) (d : Decision) :
    (process ttl id supplied d).run = (inspect ttl id supplied).run >>= fun
      | .ok (.pending _) => (commit id d .emailLink (some ⟨supplied, ttl⟩)).run
      | .ok (.alreadyProcessed status) => .done (.ok (.alreadyProcessed status))
      | .error e => .done (.error e) := by
  unfold process
  rw [ExceptT.run_bind]
  refine congrArg ((inspect ttl id supplied).run >>= ·) (funext fun result => ?_)
  rcases result with e | ⟨r | status⟩ <;> rfl

/-- A decision in the panel needs the name of an administrator and nothing else. -/
theorem processViaPanel_steps (id : String) (d : Decision) (adminId : String) :
    (processViaPanel id d adminId).run =
      if (trim adminId).isEmpty then .done (.error (.invalid "An administrator id is required"))
      else (commit id d (.panel (trim adminId)) none).run := by
  unfold processViaPanel
  dsimp only
  split <;> rfl

/-- Marking a token reads the clock and asks the store once. -/
theorem markUsed_steps (id : String) :
    markUsed id = .ask .readClock fun now => .ask (.store (.markTokenUsed id now)) .done := rfl

/-- A fresh token takes random bytes and two readings of the clock. -/
theorem mint_steps (id : String) :
    (mint id).run = .ask .drawSecret fun
      | none => .done (.error .internal)
      | some random => .ask .readClock fun now => .ask .readClock fun later =>
        .done (.ok (Token.new id (Token.secretFor id random now) later)) := by
  unfold mint newSecret
  refine congrArg (Dialogue.ask Step.drawSecret) (funext fun random => ?_)
  cases random <;> rfl

/-- A token is issued by asking the store once. -/
theorem issue_steps (id : String) :
    (issue id).run = (mint id).run >>= fun
      | .ok token => .ask (.store (.insertToken token)) fun
        | .ok true => .done (.ok token.secret)
        | .ok false =>
          .done (.error (.conflict ("An approval token already exists for request " ++ id)))
        | .error e => .done (.error (.storage e))
      | .error e => .done (.error e) := by
  unfold issue
  rw [ExceptT.run_bind]
  refine congrArg ((mint id).run >>= ·) (funext fun result => ?_)
  cases result with
  | error e => rfl
  | ok token =>
    refine congrArg (Dialogue.ask (Step.store (.insertToken token))) (funext fun reply => ?_)
    rcases reply with e | ⟨_ | _⟩ <;> rfl

/-- What is left of a submission once its token is minted: it is stored with the token in one step,
and announced if it was. -/
def storeSubmission (r : Request) (t : Token) : Flow (Except Failure Request) :=
  .ask (.store (.insertSubmission r t)) fun
    | .ok () => .ask (.publish (.submitted r t.secret)) fun _ => .done (.ok r)
    | .error e => .done (.error (submissionFailure e))

/-- What is left of a submission when its token has been minted or could not be. -/
def submitWith (r : Request) : Except Failure Token → Flow (Except Failure Request)
  | .ok token => storeSubmission r token
  | .error e => .done (.error e)

/-- A complete submission draws an identifier, reads the clock, and mints a token. -/
theorem submit_steps (data : Submission) :
    (submit data).run = match validateSubmission data with
      | .error e => .done (.error e)
      | .ok () => .ask .drawId fun id => .ask .readClock fun now =>
        (mint id.write).run >>= submitWith (Request.new id.write data now) := by
  unfold submit submit.liftExcept
  rw [ExceptT.run_bind]
  cases validateSubmission data with
  | error e => rfl
  | ok _ =>
    refine congrArg (Dialogue.ask Step.drawId) (funext fun id => ?_)
    refine congrArg (Dialogue.ask Step.readClock) (funext fun now => ?_)
    refine congrArg ((mint id.write).run >>= ·) (funext fun result => ?_)
    cases result with
    | error e => rfl
    | ok token =>
      refine congrArg (Dialogue.ask (Step.store _)) (funext fun reply => ?_)
      rcases reply with e | ⟨⟨⟩⟩ <;> rfl

end ApprovalDesk.Workflow
