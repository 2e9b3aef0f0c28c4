import ApprovalDesk.Proofs.Dispatch.Consequences
import ApprovalDesk.Proofs.Text.Trim
import ApprovalDesk.Proofs.Weather.Deeds

/-!
# Well-formed records

The fields of a request agree with its status and with each other: a pending request carries no trace of
a decision, and a decided one tells when, why, by whom and over which channel. A token has a time of use
exactly if it is used. Every record lies under its own key, and every request owns a token, which is used
once the request is decided. Deeds keep all of this as long as every rejection gives a trimmed reason,
and so do the consequences of events.
-/

namespace ApprovalDesk

set_option autoImplicit false

open ApprovalDesk.Text ApprovalDesk.Time ApprovalDesk.Workflow

/-! ## Requests -/

/-- Who can have signed a decision that came over the channel. -/
def Channel.Admits : Channel → String → Prop
  | .email, name => name = "email_link"
  | .panel, name => name ≠ "" ∧ Trimmed name

/-- A decision that names its reason properly if it is a rejection. -/
def Decision.Considered (d : Decision) : Prop := d = .approve ∨ ∃ reason, rejectFor reason = .ok d

namespace Request

/-- Nothing about the record tells of a decision. -/
structure Untouched (r : Request) : Prop where
  approvedAt : r.approvedAt = none
  rejectedAt : r.rejectedAt = none
  processedAt : r.processedAt = none
  rejectionReason : r.rejectionReason = none
  processedVia : r.processedVia = none
  approvedBy : r.approvedBy = none
  rejectedBy : r.rejectedBy = none

/-- The record tells of an approval and of nothing else. -/
structure TellsApproval (r : Request) : Prop where
  moment : ∃ t, r.approvedAt = some t ∧ r.processedAt = some t
  signed : ∃ via name, r.processedVia = some via ∧ r.approvedBy = some name ∧ via.Admits name
  rejectedAt : r.rejectedAt = none
  rejectedBy : r.rejectedBy = none
  rejectionReason : r.rejectionReason = none

/-- The record tells of a rejection with its reason and of nothing else. -/
structure TellsRejection (r : Request) : Prop where
  moment : ∃ t, r.rejectedAt = some t ∧ r.processedAt = some t
  signed : ∃ via name, r.processedVia = some via ∧ r.rejectedBy = some name ∧ via.Admits name
  reason : ∃ reason, r.rejectionReason = some reason ∧ reason ≠ "" ∧ Trimmed reason
  approvedAt : r.approvedAt = none
  approvedBy : r.approvedBy = none

/-- The record agrees with its status. -/
def WellFormed (r : Request) : Prop :=
  match r.status with
  | .pending => r.Untouched
  | .approved => r.TellsApproval
  | .rejected => r.TellsRejection

theorem wellFormed_new (id : String) (data : Submission) (now : Instant) :
    (new id data now).WellFormed :=
  (⟨rfl, rfl, rfl, rfl, rfl, rfl, rfl⟩ : (new id data now).Untouched)

end Request

theorem Decision.reason_of_rejectFor {given reason : String}
    (accepted : rejectFor given = .ok (.reject reason)) : reason ≠ "" ∧ Trimmed reason := by
  unfold rejectFor at accepted
  dsimp only at accepted
  split at accepted
  · cases accepted
  · next filled =>
    cases accepted
    refine ⟨fun empty => filled ?_, trim_trimmed given⟩
    rw [empty]
    rfl

/-- Whoever may put a decision before the store may have signed it. -/
theorem Call.Puts.admits {id : String} {d : Decision} {a : Actor} {c : Call}
    (puts : c.Puts id d a) : a.via.Admits a.name := by
  cases puts with
  | link supplied => exact rfl
  | panel named =>
    refine ⟨fun empty => ?_, trim_trimmed _⟩
    have empty : trim _ = "" := empty
    rw [empty] at named
    cases named

/-- A decision about a pending record leaves a well-formed one behind. -/
theorem Request.WellFormed.decided {r : Request} (wellFormed : r.WellFormed)
    (pending : r.status = .pending) {d : Decision} (considered : d.Considered) {a : Actor}
    (admits : a.via.Admits a.name) (now : Instant) : (r.decided d a now).WellFormed := by
  unfold WellFormed at wellFormed
  rw [pending] at wellFormed
  have untouched : r.Untouched := wellFormed
  cases d with
  | approve =>
    have tells : (r.decided .approve a now).TellsApproval := {
      moment := ⟨now, rfl, rfl⟩
      signed := ⟨a.via, a.name, rfl, rfl, admits⟩
      rejectedAt := untouched.rejectedAt
      rejectedBy := untouched.rejectedBy
      rejectionReason := untouched.rejectionReason }
    exact tells
  | reject reason =>
    have given : reason ≠ "" ∧ Trimmed reason := by
      rcases considered with approve | ⟨text, accepted⟩
      · cases approve
      · exact Decision.reason_of_rejectFor accepted
    have tells : (r.decided (.reject reason) a now).TellsRejection := {
      moment := ⟨now, rfl, rfl⟩
      signed := ⟨a.via, a.name, rfl, rfl, admits⟩
      reason := ⟨reason, rfl, given⟩
      approvedAt := untouched.approvedAt
      approvedBy := untouched.approvedBy }
    exact tells

/-! ## Tokens -/

/-- A time of use is recorded exactly if the token is used. -/
def Token.WellFormed (t : Token) : Prop := t.usedAt.isSome = t.used

theorem Token.WellFormed.markUsed {t : Token} (h : t.WellFormed) (now : Instant) :
    (t.markUsed now).WellFormed := by
  unfold Token.markUsed
  split
  · exact h
  · exact rfl

/-! ## Tables -/

namespace Table

variable {α : Type} {P : String → α → Prop} {t : Table α} {key : String} {record : α}

/-- Every record fits its key. -/
def All (t : Table α) (P : String → α → Prop) : Prop :=
  ∀ key record, t.find? key = some record → P key record

theorem all_empty (P : String → α → Prop) : (empty : Table α).All P := by
  rintro key record ⟨⟩

theorem All.insert (h : t.All P) (fits : P key record) : (t.insert key record).All P := by
  intro k r found
  rw [find?_insert] at found
  split at found
  · next same =>
    cases found
    rwa [same]
  · exact h k r found

theorem All.modify {f : α → α} (h : t.All P)
    (fits : ∀ record, t.find? key = some record → P key record → P key (f record)) :
    (t.modify key f).All P := by
  unfold Table.modify
  cases found : t.find? key with
  | none => exact h
  | some record => exact h.insert (fits record found (h key record found))

end Table

/-! ## The store -/

namespace Store

/-- Every record is well formed and lies under its own key, and every request owns a token that is used
once the request is decided. -/
structure WellFormed (s : Store) : Prop where
  requests : s.requests.All fun id r => r.id = id ∧ r.WellFormed
  tokens : s.tokens.All fun id t => t.requestId = id ∧ t.WellFormed
  profiles : s.profiles.All fun userId p =>
    p.userId = userId ∧ p.certified = true ∧ p.certifiedAt.isSome = true
  owned : s.requests.All fun id r =>
    ∃ t, s.tokens.find? id = some t ∧ (r.status.isTerminal = true → t.used = true)

theorem wellFormed_empty : empty.WellFormed :=
  ⟨Table.all_empty _, Table.all_empty _, Table.all_empty _, Table.all_empty _⟩

namespace WellFormed

variable {s : Store}

/-- Every request keeps the token that it owns when another one is stored. -/
theorem owned_stored (h : s.WellFormed) {t : Token} (newToken : s.tokens.find? t.requestId = none) :
    s.requests.All fun id r => ∃ t', (s.tokens.insert t.requestId t).find? id = some t' ∧
      (r.status.isTerminal = true → t'.used = true) := by
  intro id r found
  obtain ⟨t', token, used⟩ := h.owned id r found
  have other : id ≠ t.requestId := by
    rintro rfl
    rw [newToken] at token
    cases token
  exact ⟨t', (Table.find?_insert_of_ne _ _ other).trans token, used⟩

/-- A request with a new token is well formed among the others. -/
theorem submitted (h : s.WellFormed) {r : Request} {t : Token} (own : t.requestId = r.id)
    (newToken : s.tokens.find? r.id = none) (pending : r.status = .pending) (wellFormed : r.WellFormed)
    (fresh : t.WellFormed) : ((Deed.submitted r t).store s).WellFormed where
  requests := h.requests.insert ⟨rfl, wellFormed⟩
  tokens := h.tokens.insert ⟨rfl, fresh⟩
  profiles := h.profiles
  owned := by
    refine (h.owned_stored (own ▸ newToken)).insert ⟨t, own ▸ Table.find?_insert_self .., ?_⟩
    intro terminal
    rw [pending] at terminal
    cases terminal

theorem issued (h : s.WellFormed) {t : Token} (newToken : s.tokens.find? t.requestId = none)
    (fresh : t.WellFormed) : ((Deed.issued t).store s).WellFormed where
  requests := h.requests
  tokens := h.tokens.insert ⟨rfl, fresh⟩
  profiles := h.profiles
  owned := h.owned_stored newToken

/-- Marking a token keeps the records well formed. -/
theorem tokens_marked (h : s.WellFormed) (id : String) (now : Instant) :
    (s.tokens.modify id (·.markUsed now)).All fun id t => t.requestId = id ∧ t.WellFormed := by
  refine h.tokens.modify fun t _ own => ⟨?_, own.2.markUsed now⟩
  rw [(Token.Continues.markUsed t now).requestId, own.1]

/-- A request still owns its token when some token has been marked. -/
theorem owned_marked (h : s.WellFormed) (id : String) (now : Instant) :
    s.requests.All fun own r => ∃ t, (s.tokens.modify id (·.markUsed now)).find? own = some t ∧
      (r.status.isTerminal = true ∨ own = id → t.used = true) := by
  intro own r found
  obtain ⟨t, token, used⟩ := h.owned own r found
  rw [Table.find?_modify]
  split
  · next same =>
    subst same
    exact ⟨t.markUsed now, by rw [token]; rfl, fun _ => t.markUsed_used now⟩
  · next other => exact ⟨t, token, fun cause => used (cause.resolve_right other)⟩

theorem marked (h : s.WellFormed) (id : String) (now : Instant) :
    ((Deed.marked id now).store s).WellFormed where
  requests := h.requests
  tokens := h.tokens_marked id now
  profiles := h.profiles
  owned own r found := by
    obtain ⟨t, token, used⟩ := h.owned_marked id now own r found
    exact ⟨t, token, fun terminal => used (Or.inl terminal)⟩

/-- A decision uses up the token that its request owns. -/
theorem decided (h : s.WellFormed) {id : String} {r after : Request}
    (found : s.requests.find? id = some r) (own : after.id = id) (wellFormed : after.WellFormed)
    (now : Instant) : ((Deed.decided id after now).store s).WellFormed where
  requests := h.requests.insert ⟨own, wellFormed⟩
  tokens := h.tokens_marked id now
  profiles := h.profiles
  owned := by
    refine Table.All.insert ?_ ?_
    · intro other r' found'
      obtain ⟨t, token, used⟩ := h.owned_marked id now other r' found'
      exact ⟨t, token, fun terminal => used (Or.inl terminal)⟩
    · obtain ⟨t, token, used⟩ := h.owned_marked id now id r found
      exact ⟨t, token, fun _ => used (Or.inr rfl)⟩

/-- Consequences of events keep the records well formed. -/
theorem aftermath {s' : Store} (h : s.WellFormed) (aftermath : s.Aftermath s') : s'.WellFormed := by
  refine aftermath.keeps WellFormed (fun t call consequence wellFormed => ?_) h
  obtain ⟨requests, tokens, profiles, owned⟩ := wellFormed
  cases call with
  | insertNotification | appendAudit => exact ⟨requests, tokens, profiles, owned⟩
  | certifyProfile userId now =>
    refine ⟨requests, tokens, profiles.insert ⟨?_, rfl, rfl⟩, owned⟩
    cases found : t.profiles.find? userId with
    | none => rfl
    | some p => exact (profiles userId p found).1
  | ping | insertRequest | insertSubmission | findRequest | insertToken | findToken | markTokenUsed
  | commit => cases consequence

end WellFormed

end Store

/-- The decision that a call makes, if it makes one, names its reason properly. -/
def Call.Considered : Call → Prop
  | .process _ _ d | .processViaPanel _ d _ => d.Considered
  | .submit _ | .find _ | .inspect .. | .validate .. | .issue _ | .markUsed _ | .handle _ => True

theorem Call.Puts.considered {id : String} {d : Decision} {a : Actor} {c : Call}
    (puts : c.Puts id d a) (considered : c.Considered) : d.Considered := by
  cases puts with
  | link | panel => exact considered

/-- Deeds keep the records well formed. -/
theorem Store.WellFormed.deed {s : Store} (h : s.WellFormed) {deed : Deed} {c : Call}
    {answer : Except Crash Answer} (explains : deed.Explains s c answer) (considered : c.Considered) :
    (deed.store s).WellFormed := by
  cases explains with
  | nothing => exact h
  | submitted complete newRequest newToken =>
    exact h.submitted rfl newToken rfl (Request.wellFormed_new _ _ _) rfl
  | issued newToken => exact h.issued newToken rfl
  | marked found unused => exact h.marked _ _
  | decided puts found pending =>
    obtain ⟨own, wellFormed⟩ := h.requests _ _ found
    refine h.decided found ?_
      (wellFormed.decided pending (puts.considered considered) puts.admits _) _
    rw [Request.decided_id, own]

end ApprovalDesk
