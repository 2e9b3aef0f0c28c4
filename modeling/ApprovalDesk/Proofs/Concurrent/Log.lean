import Mathlib.Data.List.Induction
import ApprovalDesk.Proofs.Store.History
import ApprovalDesk.Proofs.Workflow.Turns
import ApprovalDesk.World

/-!
# Logs of turns

When calls run at the same time their turns happen one after the other, each in the store that the
turns before it left. A log lists them with the task that took each one. A pending request has one of
two fates in a log: nobody has decided it, and its record is as it was, or one task has, and the record
is the one which that task wrote.
-/

namespace ApprovalDesk

set_option autoImplicit false

open ApprovalDesk.Time

/-! ## One turn -/

/-- A turn happens in a store and leaves another behind. -/
inductive Turn.Happens : Store → Turn → Store → Prop where
  | answered {s s' : Store} {call : StoreCall} {reply : Except StoreError call.Result}
      (carried : s.answer call = .ok (reply, s')) : Happens s ⟨.store call, .ok reply⟩ s'
  | down (s : Store) (call : StoreCall) : Happens s ⟨.store call, .ok (.error .unavailable)⟩ s
  | crashed {s : Store} {call : StoreCall} {c : Crash} (cause : s.answer call = .error c) :
      Happens s ⟨.store call, .error c⟩ s
  | elsewhere (s : Store) {q : Step} (r : q.Reply) (no_call : ∀ call, q ≠ .store call) :
      Happens s ⟨q, .ok r⟩ s

namespace Turn.Happens

variable {s s' : Store} {t : Turn} {id : String} {r : Request}

theorem regular (h : t.Happens s s') : t.Regular := by
  intro c failed
  cases h with
  | answered | down | crashed => exact ⟨_, rfl⟩
  | elsewhere => cases failed

theorem continues (h : t.Happens s s') : s.Continues s' := by
  cases h with
  | answered carried =>
    rw [← Store.after_of_answer carried]
    exact s.continues_after _
  | down | crashed | elsewhere => exact .refl s

/-- The ends of a decision, as they show in its turn. -/
theorem commit {d : Decision} {a : Actor} {g : Option Guard} {now : Instant}
    {reply : Except Crash (Except StoreError CommitOutcome)}
    (h : Happens s ⟨.store (.commit id d a g now), reply⟩ s') :
    (reply = .ok (.error .unavailable) ∧ s' = s) ∨
      (∃ outcome, reply = .ok (.ok outcome) ∧
        Store.CommitCase s id d a g now (.ok (outcome, s'))) ∨
      ∃ c, reply = .error c ∧ s' = s ∧ Store.CommitCase s id d a g now (.error c) := by
  have ends := s.commit_cases id d a g now
  cases h with
  | answered carried =>
    rw [Store.answer] at carried
    cases result : s.commit id d a g now with
    | error c =>
      rw [result] at carried
      cases carried
    | ok pair =>
      rw [result] at carried ends
      cases carried
      exact Or.inr (Or.inl ⟨pair.1, rfl, ends⟩)
  | down => exact Or.inl ⟨rfl, rfl⟩
  | crashed cause =>
    rw [Store.answer] at cause
    cases result : s.commit id d a g now with
    | error c =>
      rw [result] at cause ends
      cases cause
      exact Or.inr (Or.inr ⟨c, rfl, rfl, ends⟩)
    | ok pair =>
      rw [result] at cause
      cases cause
  | elsewhere _ no_call => exact absurd rfl (no_call _)

/-- A decision is carried out only about a pending request, and it settles the request. -/
theorem of_writes {after : Request} (h : t.Happens s s') (writes : t.Writes id after) :
    (∃ r, s.requests.find? id = some r ∧ r.status = .pending) ∧
      s'.requests.find? id = some after ∧ after.status.isTerminal = true := by
  obtain ⟨d, a, g, now, before, rfl⟩ := writes
  rcases h.commit with ⟨down, -⟩ | ⟨outcome, same, ends⟩ | ⟨c, failed, -⟩
  · cases down
  · cases same
    cases ends with
    | carried r found pending guard =>
      refine ⟨⟨r, found, pending⟩, Table.find?_insert_self .., ?_⟩
      rw [Request.decided_status]
      cases d <;> rfl
  · cases failed

/-- Without a decision about it that is carried out, the record of a request stays as it is. -/
theorem of_no_writes (h : t.Happens s s') (found : s.requests.find? id = some r)
    (nobody : ∀ after, ¬ t.Writes id after) : s'.requests.find? id = some r := by
  cases h with
  | @answered _ call reply carried =>
    have change := s.requests_after call id
    rw [Store.after_of_answer carried, found] at change
    generalize later : s'.requests.find? id = record at change ⊢
    cases change with
    | same => rfl
    | @decided _ d a g now pending =>
      rcases commit (.answered carried) with ⟨-, rfl⟩ | ⟨outcome, same, ends⟩ | ⟨c, failed, -⟩
      · exact later.symm.trans found
      · cases same
        cases ends with
        | missing | settled | barred => exact later.symm.trans found
        | carried r => exact absurd ⟨d, a, g, now, .pending, rfl⟩ (nobody (r.decided d a now))
      · cases failed
  | down | crashed | elsewhere => exact found

/-- The reply to a read is what the store says at that moment. -/
theorem of_read {call : StoreCall} {a b : call.Result} (h : Happens s ⟨.store call, .ok (.ok a)⟩ s')
    (read : s.answer call = .ok (.ok b, s)) : b = a := by
  cases h with
  | answered carried =>
    have same := read.symm.trans carried
    injection same with pair
    injection pair with reply
    injection reply
  | elsewhere _ no_call => exact absurd rfl (no_call call)

theorem of_findRequest (h : Happens s ⟨.store (.findRequest id), .ok (.ok (some r))⟩ s') :
    s.requests.find? id = some r :=
  h.of_read rfl

theorem of_findToken {token : Token}
    (h : Happens s ⟨.store (.findToken id), .ok (.ok (some token))⟩ s') :
    s.tokens.find? id = some token :=
  h.of_read rfl

/-- A status is reported only if the request on record has it. -/
theorem of_reports {status : Status} (h : t.Happens s s') (reports : Turn.Reports id status t) :
    ∃ r, s.requests.find? id = some r ∧ r.status.isTerminal = true ∧ r.status = status := by
  cases reports with
  | found terminal => exact ⟨_, h.of_findRequest, terminal, rfl⟩
  | refused d a g now =>
    rcases h.commit with ⟨down, -⟩ | ⟨outcome, same, ends⟩ | ⟨c, failed, -⟩
    · cases down
    · cases same
      cases ends with
      | settled r found terminal => exact ⟨r, found, terminal, rfl⟩
    · cases failed

end Turn.Happens

/-- What a step does in a world happens in its store. -/
theorem World.answer_happens (w : World) (q : Step) :
    Turn.Happens w.store ⟨q, (w.answer q).1⟩ (w.answer q).2.store := by
  cases q with
  | store call =>
    rw [World.answer, World.answerStore]
    split
    · cases carried : w.store.answer call with
      | ok pair => exact .answered carried
      | error c => exact .crashed carried
    · exact .down w.store call
  | readClock | drawId => exact .elsewhere w.store _ (by simp)
  | drawSecret =>
    rw [World.answer]
    split <;> exact .elsewhere w.store _ (by simp)
  | publish e =>
    rw [World.answer]
    split <;> exact .elsewhere w.store _ (by simp)
  | deliver l =>
    rw [World.answer]
    split <;> exact .elsewhere w.store _ (by simp)

/-! ## Logs -/

/-- A log of turns, each with the task that took it, and the store that they leave. -/
inductive Log {ι : Type} (start : Store) : List (ι × Turn) → Store → Prop where
  | nothing : Log start [] start
  | next {log : List (ι × Turn)} {s s' : Store} {i : ι} {t : Turn} (past : Log start log s)
      (happens : t.Happens s s') : Log start (log ++ [(i, t)]) s'

/-- The two fates of a pending request. -/
inductive Fate {ι : Type} (id : String) (r : Request) (log : List (ι × Turn)) (s : Store) : Prop where
  | undecided (found : s.requests.find? id = some r)
      (nobody : ∀ i t after, (i, t) ∈ log → ¬ t.Writes id after)
  | decided (k : ι) (after : Request) (written : ∃ t, (k, t) ∈ log ∧ t.Writes id after)
      (found : s.requests.find? id = some after) (terminal : after.status.isTerminal = true)
      (alone : ∀ i t after', (i, t) ∈ log → t.Writes id after' → i = k ∧ after' = after)

namespace Log

variable {ι : Type} {start s : Store} {log past future : List (ι × Turn)} {i : ι} {t : Turn}
  {id : String} {r : Request}

theorem of_concat (h : Log start (log ++ [(i, t)]) s) :
    ∃ s', Log start log s' ∧ t.Happens s' s := by
  generalize whole : log ++ [(i, t)] = all at h
  cases h with
  | nothing => simp at whole
  | next past happens =>
    obtain ⟨rfl, last⟩ := List.append_inj' whole rfl
    cases last
    exact ⟨_, past, happens⟩

/-- The stores before and after a turn of the log, and how the log goes on. -/
theorem split (h : Log start (past ++ (i, t) :: future) s) :
    ∃ before after, Log start past before ∧ t.Happens before after ∧ after.Continues s := by
  induction future using List.reverseRecOn generalizing s with
  | nil =>
    obtain ⟨before, earlier, happens⟩ := of_concat h
    exact ⟨before, s, earlier, happens, .refl s⟩
  | append_singleton future e ih =>
    rw [← List.cons_append, ← List.append_assoc] at h
    obtain ⟨s', earlier, last⟩ := of_concat h
    obtain ⟨before, after, start, happens, goes_on⟩ := ih earlier
    exact ⟨before, after, start, happens, goes_on.trans last.continues⟩

theorem regular (h : Log start log s) : ∀ i t, (i, t) ∈ log → t.Regular := by
  induction h with
  | nothing => simp
  | next _ happens ih =>
    intro j u member
    rcases List.mem_append.1 member with earlier | last
    · exact ih j u earlier
    · cases List.mem_singleton.1 last
      exact happens.regular

/-- A request that was read is still on record. -/
theorem request_of_read (h : Log start log s)
    (read : (i, ⟨.store (.findRequest id), .ok (.ok (some r))⟩) ∈ log) :
    ∃ r', s.requests.find? id = some r' ∧ r.Continues r' := by
  obtain ⟨past, future, rfl⟩ := List.append_of_mem read
  obtain ⟨before, after, -, happens, goes_on⟩ := h.split
  exact (happens.continues.trans goes_on).requests id r happens.of_findRequest

/-- A token that was read is still on record. -/
theorem token_of_read {token : Token} (h : Log start log s)
    (read : (i, ⟨.store (.findToken id), .ok (.ok (some token))⟩) ∈ log) :
    ∃ token', s.tokens.find? id = some token' ∧ token.Continues token' := by
  obtain ⟨past, future, rfl⟩ := List.append_of_mem read
  obtain ⟨before, after, -, happens, goes_on⟩ := h.split
  exact (happens.continues.trans goes_on).tokens id token happens.of_findToken

end Log

/-! ## Fates -/

theorem Turn.Writes.unique {id : String} {first second : Request} {t : Turn}
    (h : t.Writes id first) (k : t.Writes id second) : second = first := by
  obtain ⟨d, a, g, now, before, rfl⟩ := h
  obtain ⟨d', a', g', now', before', same⟩ := k
  cases same
  rfl

/-- One turn more: the first decision that is carried out settles the request, and none follows. -/
theorem Fate.next {ι : Type} {id : String} {r : Request} {log : List (ι × Turn)} {s s' : Store}
    {i : ι} {t : Turn} (fate : Fate id r log s) (happens : t.Happens s s') :
    Fate id r (log ++ [(i, t)]) s' := by
  cases fate with
  | undecided found nobody =>
    by_cases writes : ∃ after, t.Writes id after
    · obtain ⟨after, writes⟩ := writes
      obtain ⟨-, later, terminal⟩ := happens.of_writes writes
      refine .decided i after ⟨t, by simp, writes⟩ later terminal fun j u after' member again => ?_
      rcases List.mem_append.1 member with earlier | last
      · exact absurd again (nobody j u after' earlier)
      · cases List.mem_singleton.1 last
        exact ⟨rfl, writes.unique again⟩
    · have silent : ∀ after, ¬ t.Writes id after := fun after h => writes ⟨after, h⟩
      refine .undecided (happens.of_no_writes found silent) fun j u after member => ?_
      rcases List.mem_append.1 member with earlier | last
      · exact nobody j u after earlier
      · cases List.mem_singleton.1 last
        exact silent after
  | decided k after written found terminal alone =>
    have silent : ∀ after', ¬ t.Writes id after' := by
      intro after' again
      obtain ⟨⟨r', open_, pending⟩, -⟩ := happens.of_writes again
      rw [found] at open_
      cases open_
      rw [pending] at terminal
      cases terminal
    obtain ⟨u, member, writes⟩ := written
    refine .decided k after ⟨u, List.mem_append_left _ member, writes⟩
      (happens.of_no_writes found silent) terminal fun j u after' member again => ?_
    rcases List.mem_append.1 member with earlier | last
    · exact alone j u after' earlier again
    · cases List.mem_singleton.1 last
      exact absurd again (silent after')

/-- Every log leaves a pending request with one of the two fates. -/
theorem Log.fate {ι : Type} {start s : Store} {log : List (ι × Turn)} {id : String} {r : Request}
    (h : Log start log s) (found : start.requests.find? id = some r) : Fate id r log s := by
  induction h with
  | nothing => exact .undecided found (by simp)
  | next _ happens ih => exact ih.next happens

/-- A status is reported only after the decision that led to it. -/
theorem Log.written_before_reported {ι : Type} {start s : Store} {past future : List (ι × Turn)}
    {i : ι} {t : Turn} {id : String} {r : Request} {status : Status}
    (h : Log start (past ++ (i, t) :: future) s) (found : start.requests.find? id = some r)
    (pending : r.status = .pending) (reports : Turn.Reports id status t) :
    ∃ k u after, (k, u) ∈ past ∧ u.Writes id after ∧ after.status = status := by
  obtain ⟨before, later, earlier, happens, -⟩ := h.split
  obtain ⟨now, recorded, terminal, rfl⟩ := happens.of_reports reports
  cases earlier.fate found with
  | undecided same nobody =>
    rw [recorded] at same
    cases same
    rw [pending] at terminal
    cases terminal
  | decided k after written same terminal' alone =>
    rw [recorded] at same
    cases same
    obtain ⟨u, member, writes⟩ := written
    exact ⟨k, u, now, member, writes, rfl⟩

end ApprovalDesk
