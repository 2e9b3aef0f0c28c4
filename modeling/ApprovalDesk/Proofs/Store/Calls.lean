import ApprovalDesk.Store.Basic

/-!
# What a call can do to the store

Every call touches the records under one id at most, and the lists only grow. What it can do is said
here once, for each part of the store: `RequestChange` and `TokenChange` relate the records found
under an id before and after a call, `CommitCase` lists the ends of a decision. The properties of
whole runs are derived from these and never open a call again.
-/

namespace ApprovalDesk

set_option autoImplicit false

open ApprovalDesk.Time

/-- What is not decided is pending. -/
theorem Status.eq_pending {s : Status} (h : ¬ s.isTerminal = true) : s = .pending := by
  cases s with
  | pending => rfl
  | approved | rejected => exact absurd rfl h

/-- The calls that record what follows from a decision. -/
def StoreCall.isConsequence : StoreCall → Bool
  | .insertNotification _ | .certifyProfile .. | .appendAudit _ => true
  | .ping | .insertRequest _ | .insertSubmission .. | .findRequest _ | .insertToken _ | .findToken _
  | .markTokenUsed .. | .commit .. => false

namespace Store

/-! ## Decisions -/

/-- The ends of a decision about the request `id`, with the condition for each. -/
inductive CommitCase (s : Store) (id : String) (d : Decision) (a : Actor) (g : Option Guard)
    (now : Instant) : Except Crash (CommitOutcome × Store) → Prop where
  | missing (absent : s.requests.find? id = none) :
      CommitCase s id d a g now (.ok (.refused .notFound, s))
  | settled (r : Request) (found : s.requests.find? id = some r)
      (terminal : r.status.isTerminal = true) :
      CommitCase s id d a g now (.ok (.refused (.alreadyProcessed r.status), s))
  | crashed (r : Request) (c : Crash) (found : s.requests.find? id = some r)
      (pending : r.status = .pending)
      (guard : guardVerdict (s.tokens.find? id) g now = .error c) :
      CommitCase s id d a g now (.error c)
  | barred (r : Request) (v : Verdict) (found : s.requests.find? id = some r)
      (pending : r.status = .pending)
      (guard : guardVerdict (s.tokens.find? id) g now = .ok v) (invalid : v ≠ .valid) :
      CommitCase s id d a g now (.ok (.refused (.tokenRejected v), s))
  | carried (r : Request) (found : s.requests.find? id = some r)
      (pending : r.status = .pending)
      (guard : guardVerdict (s.tokens.find? id) g now = .ok .valid) :
      CommitCase s id d a g now
        (.ok (.committed .pending (r.decided d a now), { s with
          requests := s.requests.insert id (r.decided d a now)
          tokens := s.tokens.modify id (·.markUsed now) }))

/-- A decision about a pending request that needs no token, or comes with a valid one, is carried
out. -/
theorem commit_of_pending {s : Store} {id : String} {d : Decision} {a : Actor} {g : Option Guard}
    {now : Instant} {r : Request} (found : s.requests.find? id = some r)
    (pending : r.status = .pending)
    (guard : guardVerdict (s.tokens.find? id) g now = .ok .valid) :
    s.commit id d a g now = .ok (.committed .pending (r.decided d a now), { s with
      requests := s.requests.insert id (r.decided d a now)
      tokens := s.tokens.modify id (·.markUsed now) }) := by
  have ok : r.transition d a now = .ok (r.decided d a now) :=
    Request.transition_eq_ok_iff.2 ⟨pending, rfl⟩
  unfold commit plan
  rw [found]
  simp only [pending, guard, ok, Status.isTerminal, Verdict.isValid]
  rfl

/-- A decision has one of the listed ends. -/
theorem commit_cases (s : Store) (id : String) (d : Decision) (a : Actor) (g : Option Guard)
    (now : Instant) : CommitCase s id d a g now (s.commit id d a g now) := by
  unfold commit plan
  cases found : s.requests.find? id with
  | none => exact .missing found
  | some r =>
    dsimp only
    by_cases terminal : r.status.isTerminal = true
    · rw [if_pos terminal]
      exact .settled r found terminal
    · rw [if_neg terminal]
      have pending : r.status = .pending := by
        cases h : r.status <;> simp_all [Status.isTerminal]
      cases guard : guardVerdict (s.tokens.find? id) g now with
      | error c => exact .crashed r c found pending guard
      | ok v =>
        by_cases valid : v = .valid
        · subst valid
          have ok : r.transition d a now = .ok (r.decided d a now) :=
            Request.transition_eq_ok_iff.2 ⟨pending, rfl⟩
          simp only [Except.map, Verdict.isValid, ok]
          exact .carried r found pending guard
        · have rejected : v.isValid = false := by simp [Verdict.isValid, valid]
          simp only [Except.map, rejected]
          exact .barred r v found pending guard valid

/-! ## Tokens -/

variable {s : Store}

/-- A token is stored if the request has none. -/
theorem answer_insertToken_new {t : Token} (free : s.tokens.find? t.requestId = none) :
    s.answer (.insertToken t) = .ok (.ok true, { s with tokens := s.tokens.insert t.requestId t }) := by
  rw [answer, insertToken, Table.contains, free]
  rfl

theorem answer_insertToken_old {t old : Token} (found : s.tokens.find? t.requestId = some old) :
    s.answer (.insertToken t) = .ok (.ok false, s) := by
  rw [answer, insertToken, Table.contains, found]
  rfl

/-- A submission is stored if neither the request nor the token is there. -/
theorem answer_insertSubmission (s : Store) (r : Request) (t : Token) :
    (s.requests.find? r.id = none ∧ s.tokens.find? t.requestId = none ∧
      s.answer (.insertSubmission r t) = .ok (.ok (), { s with
        requests := s.requests.insert r.id r
        tokens := s.tokens.insert t.requestId t })) ∨
    s.answer (.insertSubmission r t) = .ok (.error (.duplicate r.id), s) := by
  rw [answer, insertSubmission, Table.contains, Table.contains]
  cases s.requests.find? r.id with
  | some old => exact Or.inr rfl
  | none =>
    cases s.tokens.find? t.requestId with
    | some old => exact Or.inr rfl
    | none => exact Or.inl ⟨rfl, rfl, rfl⟩

/-- A token is marked if it is there and unused. -/
theorem answer_markTokenUsed (s : Store) (id : String) (now : Instant) :
    (∃ t, s.tokens.find? id = some t ∧ t.used = false ∧
      s.answer (.markTokenUsed id now) = .ok (.ok true, { s with
        tokens := s.tokens.modify id (·.markUsed now) })) ∨
    s.answer (.markTokenUsed id now) = .ok (.ok false, s) := by
  rw [answer, markTokenUsed, Table.modify]
  cases found : s.tokens.find? id with
  | none => exact Or.inr rfl
  | some t =>
    dsimp only
    cases used : t.used with
    | true => exact Or.inr rfl
    | false => exact Or.inl ⟨t, rfl, used, rfl⟩

/-! ## Records under an id -/

/-- What a call can do to the record of the request `id`. -/
inductive RequestChange (id : String) : StoreCall → Option Request → Option Request → Prop where
  | same {call : StoreCall} {record : Option Request} : RequestChange id call record record
  | inserted {r : Request} (own : r.id = id) :
      RequestChange id (.insertRequest r) none (some r)
  | submitted {r : Request} {t : Token} (own : r.id = id) :
      RequestChange id (.insertSubmission r t) none (some r)
  | decided {r : Request} {d : Decision} {a : Actor} {g : Option Guard} {now : Instant}
      (pending : r.status = .pending) :
      RequestChange id (.commit id d a g now) (some r) (some (r.decided d a now))

/-- What a call can do to the token of the request `id`. -/
inductive TokenChange (id : String) : StoreCall → Option Token → Option Token → Prop where
  | same {call : StoreCall} {record : Option Token} : TokenChange id call record record
  | inserted {t : Token} (own : t.requestId = id) :
      TokenChange id (.insertToken t) none (some t)
  | submitted {r : Request} {t : Token} (own : t.requestId = id) :
      TokenChange id (.insertSubmission r t) none (some t)
  | marked {t : Token} {now : Instant} :
      TokenChange id (.markTokenUsed id now) (some t) (some (t.markUsed now))
  | consumed {t : Token} {d : Decision} {a : Actor} {g : Option Guard} {now : Instant} :
      TokenChange id (.commit id d a g now) (some t) (some (t.markUsed now))

/-- The store after a call; one that crashes leaves it as it was. -/
def after (s : Store) (call : StoreCall) : Store :=
  match s.answer call with
  | .ok (_, next) => next
  | .error _ => s

theorem after_of_answer {s next : Store} {call : StoreCall} {reply : Except StoreError call.Result}
    (h : s.answer call = .ok (reply, next)) : s.after call = next := by
  rw [after, h]

theorem after_of_crash {s : Store} {call : StoreCall} {c : Crash} (h : s.answer call = .error c) :
    s.after call = s := by
  rw [after, h]

theorem after_insertRequest (s : Store) (r : Request) :
    s.after (.insertRequest r) = (s.insertRequest r).2 := rfl

theorem after_insertSubmission (s : Store) (r : Request) (t : Token) :
    s.after (.insertSubmission r t) = (s.insertSubmission r t).2 := rfl

theorem after_insertToken (s : Store) (t : Token) : s.after (.insertToken t) = (s.insertToken t).2 :=
  rfl

theorem after_markTokenUsed (s : Store) (id : String) (now : Instant) :
    s.after (.markTokenUsed id now) = (s.markTokenUsed id now).2 := rfl

/-- What a decision leaves behind. -/
theorem after_commit (s : Store) (id : String) (d : Decision) (a : Actor) (g : Option Guard)
    (now : Instant) :
    s.after (.commit id d a g now) = s ∨
      ∃ r, s.requests.find? id = some r ∧ r.status = .pending ∧
        s.after (.commit id d a g now) = { s with
          requests := s.requests.insert id (r.decided d a now)
          tokens := s.tokens.modify id (·.markUsed now) } := by
  have ends := s.commit_cases id d a g now
  cases result : s.commit id d a g now with
  | error c => exact Or.inl (after_of_crash (by rw [answer, result]; rfl))
  | ok pair =>
    obtain ⟨outcome, next⟩ := pair
    have reply : s.answer (.commit id d a g now) = .ok (.ok outcome, next) := by
      rw [answer, result]
      rfl
    have last : s.after (.commit id d a g now) = next := after_of_answer reply
    rw [result] at ends
    rw [last]
    cases ends with
    | missing | settled | barred => exact Or.inl rfl
    | carried r found pending => exact Or.inr ⟨r, found, pending, rfl⟩

/-- A record changes only while it is new or pending. -/
theorem requests_after (s : Store) (call : StoreCall) (id : String) :
    RequestChange id call (s.requests.find? id) ((s.after call).requests.find? id) := by
  cases call with
  | insertRequest r =>
    rw [after_insertRequest, insertRequest, Table.contains]
    cases free : s.requests.find? r.id with
    | some old => exact .same
    | none =>
      change RequestChange id _ _ ((s.requests.insert r.id r).find? id)
      rw [Table.find?_insert]
      split
      · next own =>
        rw [own, free]
        exact .inserted rfl
      · exact .same
  | insertSubmission r t =>
    rw [after_insertSubmission, insertSubmission]
    split
    · exact .same
    · next free =>
      rw [Table.find?_insert]
      split
      · next own =>
        have absent : s.requests.find? r.id = none := by
          simp only [Table.contains, Bool.or_eq_true, not_or] at free
          exact Option.not_isSome_iff_eq_none.1 free.1
        rw [own, absent]
        exact .submitted rfl
      · exact .same
  | commit rid d a g now =>
    rcases s.after_commit rid d a g now with same | ⟨r, found, pending, next⟩
    · rw [same]
      exact .same
    · rw [next, Table.find?_insert]
      split
      · next own =>
        rw [own, found]
        exact .decided pending
      · exact .same
  | markTokenUsed rid now =>
    rw [after_markTokenUsed, markTokenUsed]
    split
    · split <;> exact .same
    · exact .same
  | insertToken t =>
    rw [after_insertToken, insertToken]
    split <;> exact .same
  | ping | findRequest | findToken | insertNotification | certifyProfile | appendAudit =>
    exact .same

/-- A token changes only by being marked as used. -/
theorem tokens_after (s : Store) (call : StoreCall) (id : String) :
    TokenChange id call (s.tokens.find? id) ((s.after call).tokens.find? id) := by
  cases call with
  | insertRequest r =>
    rw [after_insertRequest, insertRequest]
    split <;> exact .same
  | insertSubmission r t =>
    rw [after_insertSubmission, insertSubmission]
    split
    · exact .same
    · next free =>
      rw [Table.find?_insert]
      split
      · next own =>
        have absent : s.tokens.find? t.requestId = none := by
          simp only [Table.contains, Bool.or_eq_true, not_or] at free
          exact Option.not_isSome_iff_eq_none.1 free.2
        rw [own, absent]
        exact .submitted rfl
      · exact .same
  | commit rid d a g now =>
    rcases s.after_commit rid d a g now with same | ⟨r, found, pending, next⟩
    · rw [same]
      exact .same
    · rw [next, Table.find?_modify]
      split
      · next own =>
        rw [own]
        cases s.tokens.find? rid with
        | none => exact .same
        | some t => exact .consumed
      · exact .same
  | markTokenUsed rid now =>
    rw [after_markTokenUsed, markTokenUsed]
    split
    · next t found =>
      split
      · exact .same
      · rw [Table.find?_insert]
        split
        · next own =>
          rw [own, found]
          exact .marked
        · exact .same
    · exact .same
  | insertToken t =>
    rw [after_insertToken, insertToken, Table.contains]
    cases free : s.tokens.find? t.requestId with
    | some old => exact .same
    | none =>
      change TokenChange id _ _ ((s.tokens.insert t.requestId t).find? id)
      rw [Table.find?_insert]
      split
      · next own =>
        rw [own, free]
        exact .inserted rfl
      · exact .same
  | ping | findRequest | findToken | insertNotification | certifyProfile | appendAudit =>
    exact .same

/-! ## What follows from decisions -/

/-- Only the calls made for it change the notifications, the profiles and the audit log. -/
theorem consequences_after (s : Store) {call : StoreCall} (other : call.isConsequence = false) :
    (s.after call).notifications = s.notifications ∧ (s.after call).profiles = s.profiles ∧
      (s.after call).audit = s.audit := by
  cases call with
  | insertRequest r =>
    rw [after_insertRequest, insertRequest]
    split <;> exact ⟨rfl, rfl, rfl⟩
  | insertSubmission r t =>
    rw [after_insertSubmission, insertSubmission]
    split <;> exact ⟨rfl, rfl, rfl⟩
  | insertToken t =>
    rw [after_insertToken, insertToken]
    split <;> exact ⟨rfl, rfl, rfl⟩
  | markTokenUsed id now =>
    rw [after_markTokenUsed, markTokenUsed]
    split
    · split <;> exact ⟨rfl, rfl, rfl⟩
    · exact ⟨rfl, rfl, rfl⟩
  | commit id d a g now =>
    rcases s.after_commit id d a g now with same | ⟨r, found, pending, next⟩
    · rw [same]
      exact ⟨rfl, rfl, rfl⟩
    · rw [next]
      exact ⟨rfl, rfl, rfl⟩
  | ping | findRequest | findToken => exact ⟨rfl, rfl, rfl⟩
  | insertNotification | certifyProfile | appendAudit => cases other

/-- Those calls change neither requests nor tokens. -/
theorem records_after (s : Store) {call : StoreCall} (consequence : call.isConsequence = true) :
    (s.after call).requests = s.requests ∧ (s.after call).tokens = s.tokens := by
  cases call with
  | insertNotification | certifyProfile | appendAudit => exact ⟨rfl, rfl⟩
  | ping | insertRequest | insertSubmission | findRequest | insertToken | findToken | markTokenUsed
  | commit => cases consequence

end Store

end ApprovalDesk
