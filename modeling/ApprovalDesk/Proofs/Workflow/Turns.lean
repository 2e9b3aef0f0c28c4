import ApprovalDesk.Proofs.Workflow.Questions

/-!
# What a call has seen

The turns that a call has taken tie its answer to replies of the store: a decision that was carried
out, a status that was reported, a token that was read. Here each call is read turn by turn, once; what
other calls do in between is the business of whoever runs them.
-/

namespace ApprovalDesk

set_option autoImplicit false

open ApprovalDesk.Text ApprovalDesk.Time ApprovalDesk.Workflow ApprovalDesk.Dialogue

/-- A step of a flow with the reply to it. -/
abbrev Turn := Dialogue.Turn Step Step.Reply

namespace Turn

/-- Only calls to the store can crash. -/
def Regular (t : Turn) : Prop := ∀ c, t.reply = .error c → ∃ call, t.question = .store call

/-- A decision about the request `id` was carried out, and led to the record `after`. -/
def Writes (id : String) (after : Request) (t : Turn) : Prop :=
  ∃ d a g now before, t = ⟨.store (.commit id d a g now), .ok (.ok (.committed before after))⟩

/-- The store told that the request `id` had been decided, and how. -/
inductive Reports (id : String) : Status → Turn → Prop where
  | found {r : Request} (terminal : r.status.isTerminal = true) :
      Reports id r.status ⟨.store (.findRequest id), .ok (.ok (some r))⟩
  | refused (d : Decision) (a : Actor) (g : Option Guard) (now : Instant) (status : Status) :
      Reports id status ⟨.store (.commit id d a g now), .ok (.ok (.refused (.alreadyProcessed status)))⟩

theorem Writes.isCommit {id : String} {after : Request} {t : Turn} (h : t.Writes id after) :
    t.question.isCommit = true := by
  obtain ⟨d, a, g, now, before, rfl⟩ := h
  rfl

end Turn

/-! ## Decisions -/

/-- Where a decision is after some turns: it waits for the store, or the store has replied. -/
inductive CommitTurns (id : String) (d : Decision) (a : Actor) (g : Option Guard) :
    List Turn → Flow (Except Failure Outcome) → Prop where
  | unread (x : Flow (Except Failure Outcome)) (goes_on : ∃ q next, x = .ask q next) :
      CommitTurns id d a g [] x
  | unasked (now : Instant) (x : Flow (Except Failure Outcome)) (goes_on : ∃ q next, x = .ask q next) :
      CommitTurns id d a g [⟨.readClock, .ok now⟩] x
  | crashed (now : Instant) (c : Crash) :
      CommitTurns id d a g [⟨.readClock, .ok now⟩, ⟨.store (.commit id d a g now), .error c⟩] (.crash c)
  | unannounced (now : Instant) (before : Status) (after : Request) :
      CommitTurns id d a g
        [⟨.readClock, .ok now⟩, ⟨.store (.commit id d a g now), .ok (.ok (.committed before after))⟩]
        (.ask (.publish (.statusChanged ⟨before, after⟩)) fun _ => .done (.ok (.processed after)))
  | finished (now : Instant) (reply : Except StoreError CommitOutcome) (later : List Turn)
      (quiet : ∀ t ∈ later, t.question.isCommit = false) :
      CommitTurns id d a g
        (⟨.readClock, .ok now⟩ :: ⟨.store (.commit id d a g now), .ok reply⟩ :: later)
        (.done (told reply))

theorem commit_turns {id : String} {d : Decision} {a : Actor} {g : Option Guard} {turns : List Turn}
    {x : Flow (Except Failure Outcome)} (leads : Leads (commit id d a g).run turns x)
    (regular : ∀ t ∈ turns, Turn.Regular t) : CommitTurns id d a g turns x := by
  rw [commit_steps] at leads
  cases leads with
  | here => exact .unread _ ⟨_, _, rfl⟩
  | @turn _ _ reading _ _ rest =>
    cases reading with
    | error c =>
      obtain ⟨call, store⟩ := regular _ List.mem_cons_self c rfl
      cases store
    | ok now =>
      cases rest with
      | here => exact .unasked now _ ⟨_, _, rfl⟩
      | @turn _ _ reply turns _ rest =>
        rcases reply with c | e | ⟨before, after⟩ | ⟨_ | status | verdict⟩
        · cases rest with
          | here => exact .crashed now c
        · cases rest with
          | here => exact .finished now (.error e) [] (by simp)
        · cases rest with
          | here => exact .unannounced now before after
          | @turn _ _ announced later _ rest =>
            cases announced with
            | error c =>
              obtain ⟨call, store⟩ := regular ⟨.publish (.statusChanged ⟨before, after⟩), .error c⟩
                (by simp) c rfl
              cases store
            | ok _ =>
              cases rest with
              | here =>
                refine .finished now (.ok (.committed before after)) [_] fun t member => ?_
                rw [List.mem_singleton.1 member]
                rfl
        · cases rest with
          | here => exact .finished now (.ok (.refused .notFound)) [] (by simp)
        · cases rest with
          | here => exact .finished now (.ok (.refused (.alreadyProcessed status))) [] (by simp)
        · cases rest with
          | here => exact .finished now (.ok (.refused (.tokenRejected verdict))) [] (by simp)

namespace CommitTurns

variable {id : String} {d : Decision} {a : Actor} {g : Option Guard} {turns : List Turn}
  {x : Flow (Except Failure Outcome)}

/-- A decision that was carried out is announced and then reported. -/
theorem of_writes (h : CommitTurns id d a g turns x) {t : Turn} (taken : t ∈ turns) {id' : String}
    {after : Request} (writes : t.Writes id' after) :
    id' = id ∧ (x = .done (.ok (.processed after)) ∨
      ∃ e, x = .ask (.publish e) fun _ => .done (.ok (.processed after))) := by
  obtain ⟨d', a', g', now', before', rfl⟩ := writes
  cases h with
  | unread => cases taken
  | unasked now => simp at taken
  | crashed now c => simp at taken
  | unannounced now before after =>
    obtain ⟨⟨rfl, -⟩, -, rfl⟩ : (id' = id ∧ _) ∧ _ ∧ _ := by simpa using taken
    exact ⟨rfl, Or.inr ⟨_, rfl⟩⟩
  | finished now reply later quiet =>
    rcases List.mem_cons.1 taken with clock | taken
    · simp at clock
    · rcases List.mem_cons.1 taken with own | taken
      · obtain ⟨⟨rfl, -⟩, rfl⟩ : (id' = id ∧ _) ∧ .ok (.committed before' after) = reply := by
          simpa using own
        exact ⟨rfl, Or.inl rfl⟩
      · cases quiet _ taken

/-- A decision that does not go on has come to what the store replied. -/
theorem ending (h : CommitTurns id d a g turns x) :
    (∃ q next, x = .ask q next) ∨ ∃ now reply later,
      turns = ⟨.readClock, .ok now⟩ :: ⟨.store (.commit id d a g now), reply⟩ :: later ∧
        x = resume (fun result => .done (told result)) reply := by
  cases h with
  | unread _ goes_on | unasked _ _ goes_on => exact Or.inl goes_on
  | unannounced => exact Or.inl ⟨_, _, rfl⟩
  | crashed now c => exact Or.inr ⟨now, .error c, [], rfl, rfl⟩
  | finished now reply later quiet => exact Or.inr ⟨now, .ok reply, later, rfl, rfl⟩

theorem of_processed {after : Request}
    (h : CommitTurns id d a g turns (.done (.ok (.processed after)))) :
    ∃ t ∈ turns, t.Writes id after := by
  generalize ends : Dialogue.done _ = x at h
  cases h with
  | unread _ goes_on | unasked _ _ goes_on =>
    obtain ⟨q, next, rfl⟩ := goes_on
    cases ends
  | crashed | unannounced => cases ends
  | finished now reply later quiet =>
    have same : told reply = .ok (.processed after) := (Dialogue.done.inj ends).symm
    rcases reply with e | ⟨before, record⟩ | ⟨_ | _ | _⟩ <;> cases same
    exact ⟨_, List.mem_cons_of_mem _ List.mem_cons_self, d, a, g, now, before, rfl⟩

theorem of_alreadyProcessed {status : Status}
    (h : CommitTurns id d a g turns (.done (.ok (.alreadyProcessed status)))) :
    ∃ t ∈ turns, Turn.Reports id status t := by
  generalize ends : Dialogue.done _ = x at h
  cases h with
  | unread _ goes_on | unasked _ _ goes_on =>
    obtain ⟨q, next, rfl⟩ := goes_on
    cases ends
  | crashed | unannounced => cases ends
  | finished now reply later quiet =>
    have same : told reply = .ok (.alreadyProcessed status) := (Dialogue.done.inj ends).symm
    rcases reply with e | ⟨before, record⟩ | ⟨_ | _ | _⟩ <;> cases same
    exact ⟨_, List.mem_cons_of_mem _ List.mem_cons_self, .refused d a g now status⟩

end CommitTurns

/-! ## Inspections -/

/-- A verdict on the string itself comes from the token that the store holds. -/
theorem check_done {ttl : Int} {id supplied : String} {turns : List Turn} {v : Verdict}
    (leads : Leads (check ttl id supplied) turns (.done v)) (shown : v.provesPossession = true) :
    ∃ token now, (⟨.store (.findToken id), .ok (.ok (some token))⟩ : Turn) ∈ turns ∧
      token.check supplied ttl now = .ok v := by
  rw [check_steps] at leads
  cases leads with
  | @turn _ _ reply turns _ rest =>
    rcases reply with c | e | _ | token
    · cases rest
    · cases rest
      cases shown
    · cases rest
      cases shown
    · cases rest with
      | @turn _ _ reading turns _ rest =>
        rcases reading with c | now
        · cases rest
        · refine ⟨token, now, List.mem_cons_self, ?_⟩
          simp only [resume] at rest
          cases checked : token.check supplied ttl now with
          | error c =>
            rw [checked] at rest
            cases rest
          | ok v =>
            rw [checked] at rest
            cases rest
            rfl

/-- What an inspection finds comes from the token and the request that the store holds. -/
theorem inspect_found {ttl : Int} {id supplied : String} {turns : List Turn} {found : Inspection}
    (leads : Leads (inspect ttl id supplied).run turns (.done (.ok found))) :
    ∃ token now v r, (⟨.store (.findToken id), .ok (.ok (some token))⟩ : Turn) ∈ turns ∧
      token.check supplied ttl now = .ok v ∧
      (⟨.store (.findRequest id), .ok (.ok (some r))⟩ : Turn) ∈ turns ∧
      inspected v (.ok (some r)) = .ok found := by
  rw [inspect_steps] at leads
  obtain ⟨v, first, second, rfl, front, back⟩ := Leads.bind_done leads
  cases shown : v.provesPossession with
  | false =>
    rw [shown, if_neg Bool.false_ne_true] at back
    cases back
  | true =>
    rw [shown, if_pos rfl] at back
    obtain ⟨token, now, read, checked⟩ := check_done front shown
    cases back with
    | @turn _ _ reply later _ rest =>
      rcases reply with c | reply
      · cases rest
      · have told : inspected v reply = .ok found := Leads.value_of_done rest
        obtain ⟨r, rfl⟩ : ∃ r, reply = .ok (some r) := by
          rcases reply with e | _ | r
          · cases v <;> cases told
          · cases v <;> cases told
          · exact ⟨r, rfl⟩
        exact ⟨token, now, v, r, List.mem_append_left _ read, checked,
          List.mem_append_right _ List.mem_cons_self, told⟩

/-- A pending request is found only by whoever has shown the right string in time. -/
theorem inspect_pending {ttl : Int} {id supplied : String} {turns : List Turn} {r : Request}
    (leads : Leads (inspect ttl id supplied).run turns (.done (.ok (.pending r)))) :
    r.status = .pending ∧ (⟨.store (.findRequest id), .ok (.ok (some r))⟩ : Turn) ∈ turns ∧
      ∃ token now, (⟨.store (.findToken id), .ok (.ok (some token))⟩ : Turn) ∈ turns ∧
        token.check supplied ttl now = .ok .valid := by
  obtain ⟨token, now, v, record, readToken, checked, readRequest, told⟩ := inspect_found leads
  cases terminal : record.status.isTerminal with
  | true => cases v <;> simp [inspected, terminal] at told
  | false =>
    cases v with
    | valid =>
      obtain rfl : record = r := by simpa [inspected, terminal] using told
      exact ⟨Status.eq_pending (by simp [terminal]), readRequest, token, now, readToken, checked⟩
    | missing | mismatch | spent | expired | unavailable => simp [inspected, terminal] at told

/-- A status is reported only if the store reported it. -/
theorem inspect_alreadyProcessed {ttl : Int} {id supplied : String} {turns : List Turn}
    {status : Status}
    (leads : Leads (inspect ttl id supplied).run turns (.done (.ok (.alreadyProcessed status)))) :
    ∃ t ∈ turns, Turn.Reports id status t := by
  obtain ⟨token, now, v, record, readToken, checked, readRequest, told⟩ := inspect_found leads
  cases terminal : record.status.isTerminal with
  | true =>
    have same : record.status = status := by
      cases v <;> simp [inspected, terminal] at told <;> exact told
    exact ⟨_, readRequest, same ▸ .found terminal⟩
  | false => cases v <;> simp [inspected, terminal] at told

/-! ## The two ways to decide -/

/-- Where a decision through the link is after some turns: its inspection goes on or has settled the
matter, or it has found a pending request and the decision is under way. -/
theorem process_turns {ttl : Int} {id supplied : String} {d : Decision} {turns : List Turn}
    {x : Flow (Except Failure Outcome)}
    (leads : Leads (process ttl id supplied d).run turns x)
    (regular : ∀ t ∈ turns, Turn.Regular t) :
    ((∀ t ∈ turns, t.question.isCommit = false) ∧ (∀ r, x ≠ .done (.ok (.processed r))) ∧
        ∀ status, x = .done (.ok (.alreadyProcessed status)) →
          ∃ t ∈ turns, Turn.Reports id status t) ∨
      ∃ r first second, turns = first ++ second ∧
        Leads (inspect ttl id supplied).run first (.done (.ok (.pending r))) ∧
        CommitTurns id d .emailLink (some ⟨supplied, ttl⟩) second x := by
  rw [process_steps] at leads
  have quiet : ∀ {turns y}, Leads (inspect ttl id supplied).run turns y →
      ∀ t ∈ turns, t.question.isCommit = false :=
    ((inspect_quiet ttl id supplied).mono fun _ => Step.isCommit_of_quiet).of_turn
  rcases Leads.bind_cases leads with ⟨y, front, unfinished, rfl⟩ |
    ⟨result, first, second, rfl, front, back⟩
  · refine Or.inl ⟨quiet front, ?_⟩
    cases y with
    | done result => exact absurd rfl (unfinished result)
    | crash c => exact ⟨by simp, by simp⟩
    | ask q next => exact ⟨by simp, by simp⟩
  · rcases result with e | r | status
    · cases back with
      | here =>
        rw [List.append_nil]
        exact Or.inl ⟨quiet front, by simp, by simp⟩
    · exact Or.inr ⟨r, first, second, rfl, front, commit_turns back fun t member =>
        regular t (List.mem_append_right _ member)⟩
    · cases back with
      | here =>
        rw [List.append_nil]
        refine Or.inl ⟨quiet front, by simp, fun reported same => ?_⟩
        obtain rfl : status = reported := by simpa using same
        exact inspect_alreadyProcessed front

/-- A decision in the panel is refused for want of a name, or is a decision. -/
theorem processViaPanel_turns {id : String} {d : Decision} {adminId : String} {turns : List Turn}
    {x : Flow (Except Failure Outcome)} (leads : Leads (processViaPanel id d adminId).run turns x)
    (regular : ∀ t ∈ turns, Turn.Regular t) :
    (turns = [] ∧ ∃ e, x = .done (.error e)) ∨
      CommitTurns id d (.panel (trim adminId)) none turns x := by
  rw [processViaPanel_steps] at leads
  split at leads
  · cases leads with
    | here => exact Or.inl ⟨rfl, _, rfl⟩
  · exact Or.inr (commit_turns leads regular)

/-! ## Calls -/

/-- The answer has been given, or an announcement comes first. -/
def Flow.Answers {α : Type} (x : Flow α) (a : α) : Prop :=
  x = .done a ∨ ∃ e, x = .ask (.publish e) fun _ => .done a

/-- Where a call that may decide about the request `id` is after some turns. -/
inductive DecisionTurns (id : String) : List Turn → Flow (Except Failure Outcome) → Prop where
  /-- The decision is still ahead, or it will not come. -/
  | ahead {turns : List Turn} {x : Flow (Except Failure Outcome)}
      (quiet : ∀ t ∈ turns, t.question.isCommit = false)
      (undecided : ∀ r, x ≠ .done (.ok (.processed r)))
      (reported : ∀ status, x = .done (.ok (.alreadyProcessed status)) →
        ∃ t ∈ turns, Turn.Reports id status t) :
      DecisionTurns id turns x
  | underWay {first second : List Turn} {x : Flow (Except Failure Outcome)} {d : Decision}
      {a : Actor} {g : Option Guard} (quiet : ∀ t ∈ first, t.question.isCommit = false)
      (decision : CommitTurns id d a g second x) :
      DecisionTurns id (first ++ second) x

namespace Call

variable {s : Settings} {c : Call} {turns : List Turn} {x : Flow Answer} {id : String} {a : Answer}
  {after : Request}

theorem decision_turns (decides : c.decides = some id) (leads : Leads (c.flow s) turns x)
    (regular : ∀ t ∈ turns, Turn.Regular t) :
    ∃ y, x = Answer.decided <$> y ∧ DecisionTurns id turns y := by
  cases c with
  | process id supplied d =>
    obtain rfl := Option.some.inj decides
    obtain ⟨y, own, rfl⟩ := Leads.map_cases leads
    refine ⟨y, rfl, ?_⟩
    rcases process_turns own regular with ⟨quiet, undecided, reported⟩ |
      ⟨r, first, second, rfl, front, decision⟩
    · exact .ahead quiet undecided reported
    · have quiet := (inspect_quiet s.tokenTtl id supplied).mono fun _ => Step.isCommit_of_quiet
      exact .underWay (quiet.of_turn front) decision
  | processViaPanel id d adminId =>
    obtain rfl := Option.some.inj decides
    obtain ⟨y, own, rfl⟩ := Leads.map_cases leads
    refine ⟨y, rfl, ?_⟩
    rcases processViaPanel_turns own regular with ⟨rfl, e, rfl⟩ | decision
    · exact .ahead (by simp) (by simp) (by simp)
    · rw [← List.nil_append turns]
      exact .underWay (by simp) decision
  | submit | find | inspect | validate | issue | markUsed | handle => cases decides

/-- What the other calls answer says nothing about a decision made by them. -/
theorem processed?_of_no_decision (other : c.decides = none) (leads : Leads (c.flow s) turns (.done a)) :
    a.processed? = none := by
  cases c with
  | process | processViaPanel => cases other
  | submit | find | inspect | validate | issue | markUsed | handle =>
    obtain ⟨y, -, last⟩ := Leads.map_cases leads
    obtain ⟨result, -, rfl⟩ := map_eq_done last.symm
    rfl

theorem about_of_decides (decides : c.decides = some id) : c.about = some id := by
  cases c with
  | process | processViaPanel => exact decides
  | submit | find | inspect | validate | issue | markUsed | handle => cases decides

/-- A call whose decision was carried out is about that request and will say so. -/
theorem answers_of_writes (leads : Leads (c.flow s) turns x)
    (regular : ∀ t ∈ turns, Turn.Regular t) {t : Turn} (taken : t ∈ turns)
    (writes : t.Writes id after) :
    c.decides = some id ∧ x.Answers (.decided (.ok (.processed after))) := by
  have loud : ¬ t.question.isCommit = false := by simp [writes.isCommit]
  cases decides : c.decides with
  | none => exact absurd ((flow_asks s decides).of_turn leads t taken) loud
  | some own =>
    obtain ⟨y, rfl, turns⟩ := decision_turns decides leads regular
    cases turns with
    | ahead quiet => exact absurd (quiet t taken) loud
    | underWay quiet decision =>
      rcases List.mem_append.1 taken with early | late
      · exact absurd (quiet t early) loud
      · obtain ⟨rfl, rfl | ⟨e, rfl⟩⟩ := decision.of_writes late writes
        · exact ⟨rfl, Or.inl rfl⟩
        · exact ⟨rfl, Or.inr ⟨e, rfl⟩⟩

/-- A call that answers that it decided had its decision carried out. -/
theorem writes_of_processed (leads : Leads (c.flow s) turns (.done a))
    (regular : ∀ t ∈ turns, Turn.Regular t) (processed : a.processed? = some after) :
    ∃ id, c.decides = some id ∧ ∃ t ∈ turns, t.Writes id after := by
  cases decides : c.decides with
  | none =>
    rw [processed?_of_no_decision decides leads] at processed
    cases processed
  | some id =>
    refine ⟨id, rfl, ?_⟩
    obtain ⟨y, last, own⟩ := decision_turns decides leads regular
    obtain ⟨result, rfl, rfl⟩ := map_eq_done last.symm
    obtain rfl : result = .ok (.processed after) := by
      rcases result with e | r | status <;> cases processed
      rfl
    cases own with
    | ahead quiet undecided => exact absurd rfl (undecided after)
    | underWay quiet decision =>
      obtain ⟨t, taken, writes⟩ := decision.of_processed
      exact ⟨t, List.mem_append_right _ taken, writes⟩

/-- A call that answers with the status of a decided request has it from the store. -/
theorem reports_of_alreadyProcessed {status : Status} (leads : Leads (c.flow s) turns (.done a))
    (regular : ∀ t ∈ turns, Turn.Regular t) (reported : a.alreadyProcessed? = some status) :
    ∃ id, c.about = some id ∧ ∃ t ∈ turns, Turn.Reports id status t := by
  cases decides : c.decides with
  | some id =>
    refine ⟨id, about_of_decides decides, ?_⟩
    obtain ⟨y, last, own⟩ := decision_turns decides leads regular
    obtain ⟨result, rfl, rfl⟩ := map_eq_done last.symm
    obtain rfl : result = .ok (.alreadyProcessed status) := by
      rcases result with e | r | status <;> cases reported
      rfl
    cases own with
    | ahead quiet undecided told => exact told status rfl
    | underWay quiet decision =>
      obtain ⟨t, taken, reports⟩ := decision.of_alreadyProcessed
      exact ⟨t, List.mem_append_right _ taken, reports⟩
  | none =>
    cases c with
    | inspect id supplied =>
      obtain ⟨y, own, last⟩ := Leads.map_cases leads
      obtain ⟨result, rfl, rfl⟩ := map_eq_done last.symm
      obtain rfl : result = .ok (.alreadyProcessed status) := by
        rcases result with e | r | status <;> cases reported
        rfl
      exact ⟨id, rfl, inspect_alreadyProcessed own⟩
    | process | processViaPanel => cases decides
    | submit | find | validate | issue | markUsed | handle =>
      obtain ⟨y, -, last⟩ := Leads.map_cases leads
      obtain ⟨result, -, rfl⟩ := map_eq_done last.symm
      cases reported

end Call

end ApprovalDesk
