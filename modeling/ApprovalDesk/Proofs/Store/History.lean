import ApprovalDesk.Proofs.Store.Calls

/-!
# The store keeps its history

Requests and tokens are never removed. What identifies a request stays as it was submitted, its status
moves once, from pending to a decision, and from then on the record is frozen; a token keeps its string
and is frozen once it is used. Notifications and audit entries are only appended, and a badge is never
taken away. Each call keeps these laws (`continues_after`), so every run of calls does
(`history_is_never_rewritten`), with outages in between.
-/

namespace ApprovalDesk

set_option autoImplicit false

open ApprovalDesk.Time

/-- `r'` is the record `r` at a later time. -/
structure Request.Continues (r r' : Request) : Prop where
  id : r'.id = r.id
  userId : r'.userId = r.userId
  userName : r'.userName = r.userName
  userEmail : r'.userEmail = r.userEmail
  purchaseEmail : r'.purchaseEmail = r.purchaseEmail
  proofFileUrl : r'.proofFileUrl = r.proofFileUrl
  createdAt : r'.createdAt = r.createdAt
  status : r'.status = r.status ∨
    (r.status = .pending ∧ (r'.status = .approved ∨ r'.status = .rejected))
  final : r.status.isTerminal = true → r' = r

namespace Request.Continues

theorem refl (r : Request) : r.Continues r :=
  ⟨rfl, rfl, rfl, rfl, rfl, rfl, rfl, Or.inl rfl, fun _ => rfl⟩

theorem decided {r : Request} (pending : r.status = .pending) (d : Decision) (a : Actor)
    (now : Instant) : r.Continues (r.decided d a now) := by
  cases d with
  | approve =>
    exact ⟨rfl, rfl, rfl, rfl, rfl, rfl, rfl, Or.inr ⟨pending, Or.inl rfl⟩,
      fun terminal => by rw [pending] at terminal; cases terminal⟩
  | reject reason =>
    exact ⟨rfl, rfl, rfl, rfl, rfl, rfl, rfl, Or.inr ⟨pending, Or.inr rfl⟩,
      fun terminal => by rw [pending] at terminal; cases terminal⟩

theorem trans {r₁ r₂ r₃ : Request} (h : r₁.Continues r₂) (k : r₂.Continues r₃) :
    r₁.Continues r₃ where
  id := k.id.trans h.id
  userId := k.userId.trans h.userId
  userName := k.userName.trans h.userName
  userEmail := k.userEmail.trans h.userEmail
  purchaseEmail := k.purchaseEmail.trans h.purchaseEmail
  proofFileUrl := k.proofFileUrl.trans h.proofFileUrl
  createdAt := k.createdAt.trans h.createdAt
  status := by
    rcases k.status with same | ⟨pending, moved⟩
    · rw [same]
      exact h.status
    · rcases h.status with same | ⟨-, approved | rejected⟩
      · exact Or.inr ⟨same ▸ pending, moved⟩
      · rw [approved] at pending
        cases pending
      · rw [rejected] at pending
        cases pending
  final terminal := by
    have first := h.final terminal
    rw [k.final (first ▸ terminal), first]

end Request.Continues

/-- `t'` is the token `t` at a later time. Once `t` is used nothing about it changes: it stays used,
and the time at which it was used is kept. -/
structure Token.Continues (t t' : Token) : Prop where
  requestId : t'.requestId = t.requestId
  secret : t'.secret = t.secret
  createdAt : t'.createdAt = t.createdAt
  spent : t.used = true → t' = t

namespace Token.Continues

theorem refl (t : Token) : t.Continues t := ⟨rfl, rfl, rfl, fun _ => rfl⟩

theorem markUsed (t : Token) (now : Instant) : t.Continues (t.markUsed now) where
  requestId := by
    unfold Token.markUsed
    split <;> rfl
  secret := t.markUsed_secret now
  createdAt := t.markUsed_createdAt now
  spent used := by rw [Token.markUsed, if_pos used]

theorem trans {t₁ t₂ t₃ : Token} (h : t₁.Continues t₂) (k : t₂.Continues t₃) : t₁.Continues t₃ where
  requestId := k.requestId.trans h.requestId
  secret := k.secret.trans h.secret
  createdAt := k.createdAt.trans h.createdAt
  spent used := by
    have first := h.spent used
    rw [k.spent (first ▸ used), first]

end Token.Continues

namespace Store

/-- `s'` is the store `s` at a later time. -/
structure Continues (s s' : Store) : Prop where
  requests : ∀ id r, s.requests.find? id = some r →
    ∃ r', s'.requests.find? id = some r' ∧ r.Continues r'
  tokens : ∀ id t, s.tokens.find? id = some t → ∃ t', s'.tokens.find? id = some t' ∧ t.Continues t'
  notifications : s.notifications <+: s'.notifications
  audit : s.audit <+: s'.audit
  profiles : ∀ userId p, s.profiles.find? userId = some p → p.certified = true →
    ∃ p', s'.profiles.find? userId = some p' ∧ p'.certified = true

namespace Continues

theorem refl (s : Store) : s.Continues s where
  requests _ r found := ⟨r, found, .refl r⟩
  tokens _ t found := ⟨t, found, .refl t⟩
  notifications := List.prefix_refl _
  audit := List.prefix_refl _
  profiles _ p found certified := ⟨p, found, certified⟩

theorem trans {s₁ s₂ s₃ : Store} (h : s₁.Continues s₂) (k : s₂.Continues s₃) : s₁.Continues s₃ where
  requests id r found := by
    obtain ⟨r₂, found₂, h₂⟩ := h.requests id r found
    obtain ⟨r₃, found₃, h₃⟩ := k.requests id r₂ found₂
    exact ⟨r₃, found₃, h₂.trans h₃⟩
  tokens id t found := by
    obtain ⟨t₂, found₂, h₂⟩ := h.tokens id t found
    obtain ⟨t₃, found₃, h₃⟩ := k.tokens id t₂ found₂
    exact ⟨t₃, found₃, h₂.trans h₃⟩
  notifications := h.notifications.trans k.notifications
  audit := h.audit.trans k.audit
  profiles userId p found certified := by
    obtain ⟨p₂, found₂, certified₂⟩ := h.profiles userId p found certified
    exact k.profiles userId p₂ found₂ certified₂

end Continues

/-! ## One call -/

theorem request_continues_after (s : Store) (call : StoreCall) {id : String} {r : Request}
    (found : s.requests.find? id = some r) :
    ∃ r', (s.after call).requests.find? id = some r' ∧ r.Continues r' := by
  have change := s.requests_after call id
  rw [found] at change
  generalize (s.after call).requests.find? id = later at change ⊢
  cases change with
  | same => exact ⟨r, rfl, .refl r⟩
  | decided pending => exact ⟨_, rfl, .decided pending _ _ _⟩

theorem token_continues_after (s : Store) (call : StoreCall) {id : String} {t : Token}
    (found : s.tokens.find? id = some t) :
    ∃ t', (s.after call).tokens.find? id = some t' ∧ t.Continues t' := by
  have change := s.tokens_after call id
  rw [found] at change
  generalize (s.after call).tokens.find? id = later at change ⊢
  cases change with
  | same => exact ⟨t, rfl, .refl t⟩
  | marked => exact ⟨_, rfl, .markUsed t _⟩
  | consumed => exact ⟨_, rfl, .markUsed t _⟩

/-- A badge outlasts every call, the one that gives it again included. -/
theorem badge_after (s : Store) (call : StoreCall) {userId : String} {p : Profile}
    (found : s.profiles.find? userId = some p) (certified : p.certified = true) :
    ∃ p', (s.after call).profiles.find? userId = some p' ∧ p'.certified = true := by
  cases consequence : call.isConsequence with
  | false =>
    rw [(s.consequences_after consequence).2.1]
    exact ⟨p, found, certified⟩
  | true =>
    cases call with
    | certifyProfile user now =>
      by_cases own : userId = user
      · subst own
        exact ⟨_, Table.find?_insert_self .., rfl⟩
      · exact ⟨p, (Table.find?_insert_of_ne _ _ own).trans found, certified⟩
    | insertNotification | appendAudit => exact ⟨p, found, certified⟩
    | ping | insertRequest | insertSubmission | findRequest | insertToken | findToken
    | markTokenUsed | commit => cases consequence

theorem notifications_after (s : Store) (call : StoreCall) :
    s.notifications <+: (s.after call).notifications := by
  cases consequence : call.isConsequence with
  | false =>
    have same := (s.consequences_after consequence).1
    exact same ▸ List.prefix_refl _
  | true =>
    cases call with
    | insertNotification n => exact List.prefix_append _ _
    | certifyProfile | appendAudit => exact List.prefix_refl _
    | ping | insertRequest | insertSubmission | findRequest | insertToken | findToken
    | markTokenUsed | commit => cases consequence

theorem audit_after (s : Store) (call : StoreCall) : s.audit <+: (s.after call).audit := by
  cases consequence : call.isConsequence with
  | false =>
    have same := (s.consequences_after consequence).2.2
    exact same ▸ List.prefix_refl _
  | true =>
    cases call with
    | appendAudit e => exact List.prefix_append _ _
    | certifyProfile | insertNotification => exact List.prefix_refl _
    | ping | insertRequest | insertSubmission | findRequest | insertToken | findToken
    | markTokenUsed | commit => cases consequence

/-- Every call keeps the history. -/
theorem continues_after (s : Store) (call : StoreCall) : s.Continues (s.after call) where
  requests _ _ found := s.request_continues_after call found
  tokens _ _ found := s.token_continues_after call found
  notifications := s.notifications_after call
  audit := s.audit_after call
  profiles _ _ found certified := s.badge_after call found certified

/-- Only a decision moves a request to another status. -/
theorem status_after (s : Store) (call : StoreCall) {id : String} {r r' : Request}
    (found : s.requests.find? id = some r) (later : (s.after call).requests.find? id = some r')
    (moved : r'.status ≠ r.status) :
    ∃ d a g now, call = .commit id d a g now ∧ r' = r.decided d a now := by
  have change := s.requests_after call id
  rw [found, later] at change
  cases change with
  | same => exact absurd rfl moved
  | decided pending => exact ⟨_, _, _, _, rfl, rfl⟩

/-! ## Runs of calls -/

/-- A call that is made to the store, which may be unavailable at the time. -/
structure Visit where
  call : StoreCall
  available : Bool

/-- The store after a visit. -/
def visit (s : Store) (v : Visit) : Store := if v.available then s.after v.call else s

/-- The store after visits, one after the other. -/
def visitAll (s : Store) (vs : List Visit) : Store := vs.foldl visit s

theorem continues_visit (s : Store) (v : Visit) : s.Continues (s.visit v) := by
  unfold visit
  split
  · exact s.continues_after v.call
  · exact .refl s

theorem continues_visitAll (s : Store) (vs : List Visit) : s.Continues (s.visitAll vs) := by
  induction vs generalizing s with
  | nil => exact .refl s
  | cons v vs ih => exact (s.continues_visit v).trans (ih (s.visit v))

/-- A request that has another status at the end of a run was decided on the way. -/
theorem decided_on_the_way (s : Store) (vs : List Visit) {id : String} {r r' : Request}
    (found : s.requests.find? id = some r) (later : (s.visitAll vs).requests.find? id = some r')
    (moved : r'.status ≠ r.status) :
    ∃ v ∈ vs, v.available = true ∧ ∃ d a g now, v.call = .commit id d a g now ∧
      r'.status = d.target := by
  induction vs generalizing s r with
  | nil =>
    rw [visitAll, List.foldl_nil, found] at later
    cases later
    exact absurd rfl moved
  | cons v vs ih =>
    obtain ⟨m, middle, -⟩ := (s.continues_visit v).requests id r found
    by_cases still : m.status = r.status
    · obtain ⟨u, member, rest⟩ := ih (s.visit v) middle later (still ▸ moved)
      exact ⟨u, List.mem_cons_of_mem v member, rest⟩
    · -- this visit decided the request, and the record has not changed since
      cases up : v.available with
      | false =>
        rw [visit, up, if_neg Bool.false_ne_true, found] at middle
        cases middle
        exact absurd rfl still
      | true =>
        have now_decided := middle
        rw [visit, up, if_pos rfl] at now_decided
        obtain ⟨d, a, g, now, call, rfl⟩ := s.status_after v.call found now_decided still
        obtain ⟨last, found_last, kept⟩ :=
          ((s.visit v).continues_visitAll vs).requests id _ middle
        have same : r' = last := Option.some.inj (later.symm.trans found_last)
        have terminal : (r.decided d a now).status.isTerminal = true := by
          rw [Request.decided_status]
          cases d <;> rfl
        refine ⟨v, List.mem_cons_self, up, d, a, g, now, call, ?_⟩
        rw [same, kept.final terminal, Request.decided_status]

/-- **History is never rewritten**, whatever calls are made and however the store goes down in between.
A request gets another status only through a decision about it that the store carries out. -/
theorem history_is_never_rewritten (s : Store) (vs : List Visit) :
    s.Continues (s.visitAll vs) ∧
      ∀ id r r', s.requests.find? id = some r → (s.visitAll vs).requests.find? id = some r' →
        r'.status ≠ r.status →
        ∃ v ∈ vs, v.available = true ∧ ∃ d a g now, v.call = .commit id d a g now ∧
          r'.status = d.target :=
  ⟨s.continues_visitAll vs, fun _ _ _ found later moved => s.decided_on_the_way vs found later moved⟩

/-- A token on record as unused, but with a time of use, gets a new one when it is marked. The workflow
makes no such token, but the store takes one in. -/
theorem usedAt_of_unused_token_is_replaced :
    ¬ ∀ (s : Store) (call : StoreCall) (id : String) (t : Token) (moment : Instant),
      s.tokens.find? id = some t → t.usedAt = some moment →
      ∃ t', (s.after call).tokens.find? id = some t' ∧ t'.usedAt = some moment := by
  intro kept
  let odd : Token := ⟨"r1", "abc", ⟨0, 0⟩, false, some ⟨1, 0⟩⟩
  obtain ⟨t', found, same⟩ :=
    kept (empty.after (.insertToken odd)) (.markTokenUsed "r1" ⟨2, 0⟩) "r1" odd ⟨1, 0⟩ rfl rfl
  have marked : t' = odd.markUsed ⟨2, 0⟩ := (Option.some.inj found).symm
  rw [marked] at same
  exact absurd same (by decide)

end Store

end ApprovalDesk
