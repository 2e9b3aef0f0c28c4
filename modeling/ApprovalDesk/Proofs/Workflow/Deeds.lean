import ApprovalDesk.Proofs.Workflow.Runs

/-!
# Deeds

A call that runs alone does one thing for good, or nothing: it takes in a request with its token, issues
a token, marks one as used, or decides a request. The answer says which (`Did`), and the deed says all
that becomes of the store and what is announced (`run_call`). Runs of calls are reasoned about by their
deeds.
-/

namespace ApprovalDesk

set_option autoImplicit false

open ApprovalDesk.Text ApprovalDesk.Time ApprovalDesk.Workflow ApprovalDesk.Dialogue

/-- What a call did for good. -/
inductive Deed where
  | nothing
  | submitted (request : Request) (token : Token)
  | issued (token : Token)
  | marked (id : String) (now : Instant)
  | decided (id : String) (after : Request) (now : Instant)

namespace Deed

/-- The store after a deed. -/
def store : Deed → Store → Store
  | .nothing, s => s
  | .submitted r t, s =>
    { s with requests := s.requests.insert r.id r, tokens := s.tokens.insert t.requestId t }
  | .issued t, s => { s with tokens := s.tokens.insert t.requestId t }
  | .marked id now, s => { s with tokens := s.tokens.modify id (·.markUsed now) }
  | .decided id after now, s =>
    { s with
      requests := s.requests.insert id after
      tokens := s.tokens.modify id (·.markUsed now) }

/-- What is announced of a deed. -/
def events : Deed → List Event
  | .submitted r t => [.submitted r t.secret]
  | .decided _ after _ => [.statusChanged ⟨.pending, after⟩]
  | .nothing | .issued _ | .marked .. => []

end Deed

/-- The answer tells of a deed. -/
def Answer.claims : Answer → Bool
  | .submitted (.ok _) | .issued (.ok _) | .marked (.ok true) | .decided (.ok (.processed _)) => true
  | _ => false

/-- The deed that goes with the answer to a call in a world, and what made it possible. -/
inductive Did (ttl : Int) (w : World) : Call → Except Crash Answer → Deed → Prop where
  | nothing {c : Call} {answer : Except Crash Answer}
      (modest : ∀ a, answer = .ok a → a.claims = false) : Did ttl w c answer .nothing
  | submitted {data : Submission} {id secret : String}
      (complete : validateSubmission data = .ok ())
      (newRequest : w.store.requests.find? id = none) (newToken : w.store.tokens.find? id = none) :
      Did ttl w (.submit data) (.ok (.submitted (.ok (Request.new id data w.now))))
        (.submitted (Request.new id data w.now) (Token.new id secret w.now))
  | issued {id secret : String} (newToken : w.store.tokens.find? id = none) :
      Did ttl w (.issue id) (.ok (.issued (.ok secret))) (.issued (Token.new id secret w.now))
  | marked {id : String} {t : Token} (found : w.store.tokens.find? id = some t)
      (unused : t.used = false) :
      Did ttl w (.markUsed id) (.ok (.marked (.ok true))) (.marked id w.now)
  | link {id supplied : String} {d : Decision} {r : Request}
      (found : w.store.requests.find? id = some r) (pending : r.status = .pending)
      (valid : guardVerdict (w.store.tokens.find? id) (some ⟨supplied, ttl⟩) w.now = .ok .valid) :
      Did ttl w (.process id supplied d) (.ok (.decided (.ok (.processed (r.decided d .emailLink w.now)))))
        (.decided id (r.decided d .emailLink w.now) w.now)
  | panel {id adminId : String} {d : Decision} {r : Request}
      (named : (trim adminId).isEmpty = false)
      (found : w.store.requests.find? id = some r) (pending : r.status = .pending) :
      Did ttl w (.processViaPanel id d adminId)
        (.ok (.decided (.ok (.processed (r.decided d (.panel (trim adminId)) w.now)))))
        (.decided id (r.decided d (.panel (trim adminId)) w.now) w.now)

namespace World

variable {α β : Type}

/-- A fresh token is minted at the time of the clock, unless there are no random bytes. -/
theorem run_mint (w : World) (id : String) :
    (∃ secret, w.run (mint id).run = (.ok (.ok (Token.new id secret w.now)), w.drawn)) ∨
    w.run (mint id).run = (.ok (.error .internal), w) := by
  rw [mint_steps, run_drawSecret]
  split
  · exact Or.inl ⟨_, rfl⟩
  · exact Or.inr rfl

variable {s : Settings} {w : World}

/-- What a call comes to when it runs alone. -/
structure Comes (s : Settings) (w : World) (c : Call) (deed : Deed) : Prop where
  did : Did s.tokenTtl w c (w.run (c.flow s)).1 deed
  store : (w.run (c.flow s)).2.store = deed.store w.store
  announced : World.announced (c.flow s) w = deed.events

theorem comes_of_reads {c : Call} {f : α → Answer} {x : Flow α} (flow : c.flow s = f <$> x)
    (reads : x.AsksOnly fun q => q.reads = true) (modest : ∀ a, (f a).claims = false) :
    Comes s w c .nothing := by
  refine ⟨?_, ?_, ?_⟩
  · rw [flow, run_map]
    refine .nothing fun a same => ?_
    generalize (w.run x).1 = result at same
    rcases result with c | b
    · cases same
    · cases same
      exact modest b
  · rw [flow, run_map]
    exact store_of_reads reads w
  · rw [flow, announced_map]
    exact announced_of_quiet (reads.mono fun _ => Step.quiet_of_reads) w

/-- A call that runs to an answer without announcing anything. -/
theorem comes_of_run {c : Call} {f : α → Answer} {x : Flow α} {a : α} {w' : World} {deed : Deed}
    (flow : c.flow s = f <$> x) (run : w.run x = (.ok a, w')) (store : w'.store = deed.store w.store)
    (did : Did s.tokenTtl w c (.ok (f a)) deed) (announced : World.announced x w = deed.events) :
    Comes s w c deed := by
  refine ⟨?_, ?_, ?_⟩
  · rw [flow, run_map, run]
    exact did
  · rw [flow, run_map, run]
    exact store
  · rw [flow, announced_map]
    exact announced

/-- A call that runs to an answer which tells of no deed, and leaves the store as it was. -/
theorem comes_of_modest {c : Call} {f : α → Answer} {x : Flow α} {a : α} {w' : World}
    (flow : c.flow s = f <$> x) (run : w.run x = (.ok a, w')) (store : w'.store = w.store)
    (modest : (f a).claims = false) (silent : World.announced x w = []) : Comes s w c .nothing := by
  refine comes_of_run flow run store (.nothing ?_) silent
  intro b same
  cases same
  exact modest

/-- A token is issued unless the request has one. -/
theorem comes_issue (s : Settings) (w : World) (id : String) : ∃ deed, Comes s w (.issue id) deed := by
  have flow : (Call.issue id).flow s = Answer.issued <$> (issue id).run := rfl
  have silent : announced (issue id).run w = [] := announced_of_quiet (issue_quiet id) w
  rcases run_mint w id with ⟨secret, minted⟩ | failed
  · cases up : w.drawn.up (.insertToken (Token.new id secret w.now)) with
    | false =>
      have run : w.run (issue id).run = (.ok (.error (.storage .unavailable)), w.drawn) := by
        rw [issue_steps, run_bind_ok minted, run_store_down up]
        rfl
      exact ⟨_, comes_of_modest flow run rfl rfl silent⟩
    | true =>
      cases found : w.store.tokens.find? id with
      | some t =>
        have old : w.drawn.store.answer (.insertToken (Token.new id secret w.now)) =
            .ok (.ok false, w.store) := Store.answer_insertToken_old found
        have run : w.run (issue id).run = (.ok (.error
            (.conflict ("An approval token already exists for request " ++ id))), w.drawn) := by
          rw [issue_steps, run_bind_ok minted, run_store_up up old]
          rfl
        exact ⟨_, comes_of_modest flow run rfl rfl silent⟩
      | none =>
        have new : w.drawn.store.answer (.insertToken (Token.new id secret w.now)) =
            .ok (.ok true, (Deed.issued (Token.new id secret w.now)).store w.store) :=
          Store.answer_insertToken_new found
        have run : w.run (issue id).run = (.ok (.ok secret),
            { w.drawn with store := (Deed.issued (Token.new id secret w.now)).store w.store }) := by
          rw [issue_steps, run_bind_ok minted, run_store_up up new]
          rfl
        exact ⟨.issued _, comes_of_run flow run rfl (.issued found) silent⟩
  · have run : w.run (issue id).run = (.ok (.error .internal), w) := by
      rw [issue_steps, run_bind_ok failed]
      rfl
    exact ⟨_, comes_of_modest flow run rfl rfl silent⟩

/-- A token is marked if it is there and unused. -/
theorem comes_markUsed (s : Settings) (w : World) (id : String) :
    ∃ deed, Comes s w (.markUsed id) deed := by
  have flow : (Call.markUsed id).flow s = Answer.marked <$> markUsed id := rfl
  have silent : announced (markUsed id) w = [] := announced_of_quiet (markUsed_quiet id) w
  cases up : w.up (.markTokenUsed id w.now) with
  | false =>
    have run : w.run (markUsed id) = (.ok (.error .unavailable), w) := by
      rw [markUsed_steps, run_readClock, run_store_down up]
      rfl
    exact ⟨_, comes_of_modest flow run rfl rfl silent⟩
  | true =>
    rcases w.store.answer_markTokenUsed id w.now with ⟨t, found, unused, marked⟩ | unmarked
    · have run : w.run (markUsed id) = (.ok (.ok true),
          { w with store := (Deed.marked id w.now).store w.store }) := by
        rw [markUsed_steps, run_readClock, run_store_up up marked]
        rfl
      exact ⟨.marked id w.now, comes_of_run flow run rfl (.marked found unused) silent⟩
    · have run : w.run (markUsed id) = (.ok (.ok false), w) := by
        rw [markUsed_steps, run_readClock, run_store_up up unmarked]
        rfl
      exact ⟨_, comes_of_modest flow run rfl rfl silent⟩

theorem run_storeSubmission (w : World) (r : Request) (t : Token) :
    (w.store.requests.find? r.id = none ∧ w.store.tokens.find? t.requestId = none ∧
      (∃ w', w.run (storeSubmission r t) = (.ok (.ok r), w') ∧
        w'.store = (Deed.submitted r t).store w.store) ∧
      announced (storeSubmission r t) w = (Deed.submitted r t).events) ∨
    ∃ e, w.run (storeSubmission r t) = (.ok (.error e), w) ∧ announced (storeSubmission r t) w = [] := by
  cases up : w.up (.insertSubmission r t) with
  | false =>
    have run : w.run (storeSubmission r t) = (.ok (.error (submissionFailure .unavailable)), w) := by
      rw [storeSubmission, run_store_down up]
      rfl
    have silent : announced (storeSubmission r t) w = [] := by
      rw [storeSubmission, announced_store_down up]
      rfl
    exact Or.inr ⟨_, run, silent⟩
  | true =>
    rcases w.store.answer_insertSubmission r t with ⟨newRequest, newToken, stored⟩ | refused
    · refine Or.inl ⟨newRequest, newToken, ?_⟩
      rw [storeSubmission, run_store_up up stored, announced_store_up up stored]
      exact ⟨⟨_, rfl, announce_store _ _⟩, rfl⟩
    · have run : w.run (storeSubmission r t) = (.ok (.error (submissionFailure (.duplicate r.id))), w) := by
        rw [storeSubmission, run_store_up up refused]
        rfl
      have silent : announced (storeSubmission r t) w = [] := by
        rw [storeSubmission, announced_store_up up refused]
        rfl
      exact Or.inr ⟨_, run, silent⟩

/-- A complete submission mints a token for a new identifier and is stored with it. -/
theorem run_submit {data : Submission} (complete : validateSubmission data = .ok ()) (w : World) :
    (∃ id secret,
      w.run (submit data).run = w.numbered.drawn.run
        (storeSubmission (Request.new id data w.now) (Token.new id secret w.now)) ∧
      announced (submit data).run w = announced
        (storeSubmission (Request.new id data w.now) (Token.new id secret w.now)) w.numbered.drawn) ∨
    w.run (submit data).run = (.ok (.error .internal), w.numbered) ∧
      announced (submit data).run w = [] := by
  let id := (w.ids w.idsDrawn).write
  let rest : Flow (Except Failure Request) :=
    (mint id).run >>= submitWith (Request.new id data w.now)
  have run : w.run (submit data).run = w.numbered.run rest := by
    rw [submit_steps, complete]
    exact run_drawId _ w
  have heard : announced (submit data).run w = announced rest w.numbered := by
    rw [submit_steps, complete]
    rfl
  have quiet : announced (mint id).run w.numbered = [] := announced_of_quiet (mint_quiet id) _
  rw [run, heard, announced_bind, quiet, List.nil_append]
  rcases run_mint w.numbered id with ⟨secret, minted⟩ | failed
  · rw [run_bind_ok minted, minted]
    exact Or.inl ⟨id, secret, rfl, rfl⟩
  · rw [run_bind_ok failed, failed]
    exact Or.inr ⟨rfl, rfl⟩

/-- A complete submission is stored with its token, if the store can take it. -/
theorem comes_submit (s : Settings) (w : World) (data : Submission) :
    ∃ deed, Comes s w (.submit data) deed := by
  have flow : (Call.submit data).flow s = Answer.submitted <$> (submit data).run := rfl
  cases complete : validateSubmission data with
  | error e =>
    have run : w.run (submit data).run = (.ok (.error e), w) := by
      rw [submit_steps, complete]
      rfl
    have silent : announced (submit data).run w = [] := by
      rw [submit_steps, complete]
      rfl
    exact ⟨_, comes_of_modest flow run rfl rfl silent⟩
  | ok _ =>
    rcases run_submit complete w with ⟨id, secret, run, heard⟩ | ⟨run, silent⟩
    · rcases run_storeSubmission w.numbered.drawn (Request.new id data w.now)
        (Token.new id secret w.now) with
        ⟨newRequest, newToken, ⟨w', stored, store⟩, told⟩ | ⟨e, refused, silent⟩
      · exact ⟨_, comes_of_run flow (run.trans stored) store
          (.submitted complete newRequest newToken) (heard.trans told)⟩
      · exact ⟨_, comes_of_modest flow (run.trans refused) rfl rfl (heard.trans silent)⟩
    · exact ⟨_, comes_of_modest flow run rfl rfl silent⟩

/-- A decision that was carried out, as the deed of the call that made it. -/
theorem comes_of_commit {c : Call} {x : Flow (Except Failure Outcome)} {id : String} {d : Decision}
    {a : Actor} {r : Request} (flow : c.flow s = Answer.decided <$> x)
    (run : w.run x = (.ok (.ok (.processed (r.decided d a w.now))), w.settle id (r.decided d a w.now)))
    (did : Did s.tokenTtl w c (.ok (.decided (.ok (.processed (r.decided d a w.now)))))
      (.decided id (r.decided d a w.now) w.now))
    (heard : announced x w = [.statusChanged ⟨.pending, r.decided d a w.now⟩]) :
    Comes s w c (.decided id (r.decided d a w.now) w.now) :=
  comes_of_run flow run (announce_store _ _) did heard

/-- A decision that was not carried out is no deed. -/
theorem comes_of_refusal {c : Call} {x : Flow (Except Failure Outcome)}
    {out : Except Crash (Except Failure Outcome)} (flow : c.flow s = Answer.decided <$> x)
    (run : w.run x = (out, w)) (undecided : ∀ r, out ≠ .ok (.ok (.processed r)))
    (silent : announced x w = []) : Comes s w c .nothing := by
  refine ⟨?_, ?_, ?_⟩
  · rw [flow, run_map, run]
    refine .nothing fun a same => ?_
    rcases out with c | e | r | status
    · cases same
    · cases same
      rfl
    · exact absurd rfl (undecided r)
    · cases same
      rfl
  · rw [flow, run_map, run]
    rfl
  · rw [flow, announced_map, silent]
    rfl

/-- A decision through the link is refused by its inspection, or is a decision. -/
theorem comes_process (s : Settings) (w : World) (id supplied : String) (d : Decision) :
    ∃ deed, Comes s w (.process id supplied d) deed := by
  have flow : (Call.process id supplied d).flow s =
    Answer.decided <$> (process s.tokenTtl id supplied d).run := rfl
  have run := w.run_process s.tokenTtl id supplied d
  have heard := w.announced_process s.tokenTtl id supplied d
  rcases found : w.inspection s.tokenTtl id supplied with c | e | r | status
  · rw [found] at run heard
    exact ⟨_, comes_of_refusal flow run (by simp) heard⟩
  · rw [found] at run heard
    exact ⟨_, comes_of_refusal flow run (by simp) heard⟩
  · rw [found] at run heard
    rcases run_commit_cases w id d .emailLink (some ⟨supplied, s.tokenTtl⟩) with
      ⟨r, found, pending, valid, decided, told⟩ | ⟨out, refused, silent, undecided⟩
    · exact ⟨_, comes_of_commit flow (run.trans decided) (.link found pending valid)
        (heard.trans told)⟩
    · exact ⟨_, comes_of_refusal flow (run.trans refused) undecided (heard.trans silent)⟩
  · rw [found] at run heard
    exact ⟨_, comes_of_refusal flow run (by simp) heard⟩

/-- A decision in the panel is refused for want of a name, or is a decision. -/
theorem comes_processViaPanel (s : Settings) (w : World) (id : String) (d : Decision)
    (adminId : String) : ∃ deed, Comes s w (.processViaPanel id d adminId) deed := by
  have flow : (Call.processViaPanel id d adminId).flow s =
    Answer.decided <$> (processViaPanel id d adminId).run := rfl
  cases named : (trim adminId).isEmpty with
  | true =>
    have steps : (processViaPanel id d adminId).run =
        .done (.error (.invalid "An administrator id is required")) := by
      rw [processViaPanel_steps, named]
      rfl
    rw [steps] at flow
    exact ⟨_, comes_of_refusal flow rfl (by simp) rfl⟩
  | false =>
    have steps : (processViaPanel id d adminId).run = (commit id d (.panel (trim adminId)) none).run := by
      rw [processViaPanel_steps, named]
      rfl
    rw [steps] at flow
    rcases run_commit_cases w id d (.panel (trim adminId)) none with
      ⟨r, found, pending, -, run, heard⟩ | ⟨out, run, silent, undecided⟩
    · exact ⟨_, comes_of_commit flow run (.panel named found pending) heard⟩
    · exact ⟨_, comes_of_refusal flow run undecided silent⟩

/-- **A call does one deed or nothing**, and its answer says which. -/
theorem comes (s : Settings) (w : World) (c : Call) (own : ∀ e, c ≠ .handle e) :
    ∃ deed, Comes s w c deed := by
  cases c with
  | submit data => exact comes_submit s w data
  | find id => exact ⟨_, comes_of_reads rfl (find_reads id) fun _ => rfl⟩
  | inspect id supplied => exact ⟨_, comes_of_reads rfl (inspect_reads _ id supplied) fun _ => rfl⟩
  | validate id supplied => exact ⟨_, comes_of_reads rfl (validate_reads _ id supplied) fun _ => rfl⟩
  | issue id => exact comes_issue s w id
  | markUsed id => exact comes_markUsed s w id
  | process id supplied d => exact comes_process s w id supplied d
  | processViaPanel id d adminId => exact comes_processViaPanel s w id d adminId
  | handle e => exact absurd rfl (own e)

end World

end ApprovalDesk
