import ApprovalDesk.Proofs.World.Run

/-!
# Calls about different requests

A call is about the ids that it names. What it is answered, and what becomes of the records under these
ids, depends on nothing that is on record under any other id, and it leaves those records alone. So calls
about different requests can be made in either order.
-/

namespace ApprovalDesk

set_option autoImplicit false

/-- The ids that a call names; the token of a submission may have another id than its request. -/
def StoreCall.ids : StoreCall → List String
  | .insertRequest r => [r.id]
  | .insertSubmission r t => [r.id, t.requestId]
  | .insertToken t => [t.requestId]
  | .findRequest id | .findToken id | .markTokenUsed id _ | .commit id .. => [id]
  | .ping | .insertNotification _ | .certifyProfile .. | .appendAudit _ => []

namespace Store

/-- Stores with the same requests and tokens under some ids, whatever is on record under others. -/
structure AgreesOn (ids : List String) (s s' : Store) : Prop where
  requests : ∀ id ∈ ids, s.requests.find? id = s'.requests.find? id
  tokens : ∀ id ∈ ids, s.tokens.find? id = s'.tokens.find? id

/-! ## What a call depends on -/

namespace AgreesOn

variable {ids : List String} {s s' s'' : Store}

theorem refl : s.AgreesOn ids s := ⟨fun _ _ => rfl, fun _ _ => rfl⟩

theorem symm (h : s.AgreesOn ids s') : s'.AgreesOn ids s :=
  ⟨fun id member => (h.requests id member).symm, fun id member => (h.tokens id member).symm⟩

theorem trans (h : s.AgreesOn ids s') (k : s'.AgreesOn ids s'') : s.AgreesOn ids s'' :=
  ⟨fun id member => (h.requests id member).trans (k.requests id member),
    fun id member => (h.tokens id member).trans (k.tokens id member)⟩

theorem single (h : s.AgreesOn ids s') {id : String} (member : id ∈ ids) : s.AgreesOn [id] s' :=
  ⟨List.forall_mem_singleton.2 (h.requests id member),
    List.forall_mem_singleton.2 (h.tokens id member)⟩

theorem withRequest (h : s.AgreesOn ids s') (key : String) (r : Request) :
    AgreesOn ids { s with requests := s.requests.insert key r }
      { s' with requests := s'.requests.insert key r } where
  requests id member := by
    rw [Table.find?_insert, Table.find?_insert, h.requests id member]
  tokens := h.tokens

theorem withToken (h : s.AgreesOn ids s') (key : String) (t : Token) :
    AgreesOn ids { s with tokens := s.tokens.insert key t }
      { s' with tokens := s'.tokens.insert key t } where
  requests := h.requests
  tokens id member := by
    rw [Table.find?_insert, Table.find?_insert, h.tokens id member]

theorem changingToken (h : s.AgreesOn ids s') {key : String} (own : key ∈ ids) (f : Token → Token) :
    AgreesOn ids { s with tokens := s.tokens.modify key f }
      { s' with tokens := s'.tokens.modify key f } where
  requests := h.requests
  tokens id member := by
    rw [Table.find?_modify, Table.find?_modify, h.tokens id member, h.tokens key own]

/-- **A call depends only on the records under its ids.** Stores that agree on these answer it alike, and
agree on them afterwards. -/
theorem answer {call : StoreCall} (h : s.AgreesOn call.ids s') :
    (∃ reply t t', s.answer call = .ok (reply, t) ∧ s'.answer call = .ok (reply, t') ∧
      t.AgreesOn call.ids t') ∨
    ∃ c, s.answer call = .error c ∧ s'.answer call = .error c := by
  cases call with
  | ping | insertNotification | certifyProfile | appendAudit =>
    exact Or.inl ⟨_, _, _, rfl, rfl, nofun, nofun⟩
  | findRequest id =>
    refine Or.inl ⟨_, _, _, rfl, ?_, h⟩
    rw [h.requests id List.mem_cons_self]
    rfl
  | findToken id =>
    refine Or.inl ⟨_, _, _, rfl, ?_, h⟩
    rw [h.tokens id List.mem_cons_self]
    rfl
  | insertRequest r =>
    refine Or.inl ?_
    unfold Store.answer insertRequest Table.contains
    dsimp only
    rw [h.requests r.id List.mem_cons_self]
    split
    · exact ⟨_, _, _, rfl, rfl, h⟩
    · exact ⟨_, _, _, rfl, rfl, h.withRequest r.id r⟩
  | insertSubmission r t =>
    refine Or.inl ?_
    unfold Store.answer insertSubmission Table.contains
    dsimp only
    rw [h.requests r.id List.mem_cons_self,
      h.tokens t.requestId (List.mem_cons_of_mem _ List.mem_cons_self)]
    split
    · exact ⟨_, _, _, rfl, rfl, h⟩
    · exact ⟨_, _, _, rfl, rfl, (h.withRequest r.id r).withToken t.requestId t⟩
  | insertToken t =>
    refine Or.inl ?_
    unfold Store.answer insertToken Table.contains
    dsimp only
    rw [h.tokens t.requestId List.mem_cons_self]
    split
    · exact ⟨_, _, _, rfl, rfl, h⟩
    · exact ⟨_, _, _, rfl, rfl, h.withToken t.requestId t⟩
  | markTokenUsed id now =>
    refine Or.inl ?_
    unfold Store.answer markTokenUsed
    dsimp only
    rw [h.tokens id List.mem_cons_self]
    cases s'.tokens.find? id with
    | none => exact ⟨_, _, _, rfl, rfl, h⟩
    | some t =>
      dsimp only
      split
      · exact ⟨_, _, _, rfl, rfl, h⟩
      · exact ⟨_, _, _, rfl, rfl, h.withToken id (t.markUsed now)⟩
  | commit id d a g now =>
    unfold Store.answer commit
    dsimp only
    rw [h.requests id List.mem_cons_self, h.tokens id List.mem_cons_self]
    rcases plan (s'.requests.find? id) (s'.tokens.find? id) d a g now with c | cause | after
    · exact Or.inr ⟨c, rfl, rfl⟩
    · exact Or.inl ⟨_, _, _, rfl, rfl, h⟩
    · exact Or.inl ⟨_, _, _, rfl, rfl,
        (h.withRequest id after).changingToken List.mem_cons_self (·.markUsed now)⟩

theorem visit {v : Visit} (h : s.AgreesOn v.call.ids s') :
    (s.visit v).AgreesOn v.call.ids (s'.visit v) := by
  unfold Store.visit
  split
  · obtain ⟨reply, t, t', left, right, agrees⟩ | ⟨c, left, right⟩ := h.answer
    · rw [after_of_answer left, after_of_answer right]
      exact agrees
    · rw [after_of_crash left, after_of_crash right]
      exact h
  · exact h

end AgreesOn

/-! ## What a call leaves alone -/

theorem RequestChange.eq_of_not_mem {id : String} {call : StoreCall} {old new : Option Request}
    (change : RequestChange id call old new) (apart : id ∉ call.ids) : old = new := by
  cases change with
  | same => rfl
  | inserted own | submitted own => exact absurd (own ▸ List.mem_cons_self) apart
  | decided => exact absurd List.mem_cons_self apart

theorem TokenChange.eq_of_not_mem {id : String} {call : StoreCall} {old new : Option Token}
    (change : TokenChange id call old new) (apart : id ∉ call.ids) : old = new := by
  cases change with
  | same => rfl
  | inserted own => exact absurd (own ▸ List.mem_cons_self) apart
  | submitted own => exact absurd (own ▸ List.mem_cons_of_mem _ List.mem_cons_self) apart
  | marked | consumed => exact absurd List.mem_cons_self apart

/-- A call leaves alone what is on record under ids that it does not name. -/
theorem agreesOn_after (s : Store) {ids : List String} {call : StoreCall}
    (apart : ∀ id ∈ ids, id ∉ call.ids) : s.AgreesOn ids (s.after call) where
  requests id member := (s.requests_after call id).eq_of_not_mem (apart id member)
  tokens id member := (s.tokens_after call id).eq_of_not_mem (apart id member)

theorem agreesOn_visit (s : Store) {ids : List String} {v : Visit}
    (apart : ∀ id ∈ ids, id ∉ v.call.ids) : s.AgreesOn ids (s.visit v) := by
  unfold visit
  split
  · exact s.agreesOn_after apart
  · exact .refl

theorem consequences_visit (s : Store) {v : Visit} (other : v.call.isConsequence = false) :
    (s.visit v).notifications = s.notifications ∧ (s.visit v).profiles = s.profiles ∧
      (s.visit v).audit = s.audit := by
  unfold visit
  split
  · exact s.consequences_after other
  · exact ⟨rfl, rfl, rfl⟩

/-! ## The order of two calls -/

/-- Stores that agree on every id differ in notifications, profiles and audit entries only. -/
theorem eq_of_agreesOn {s s' : Store} (records : ∀ id, s.AgreesOn [id] s')
    (others : s.notifications = s'.notifications ∧ s.profiles = s'.profiles ∧ s.audit = s'.audit) :
    s = s' := by
  have requests : s.requests = s'.requests :=
    Table.ext fun id => (records id).requests id List.mem_cons_self
  have tokens : s.tokens = s'.tokens :=
    Table.ext fun id => (records id).tokens id List.mem_cons_self
  obtain ⟨notifications, profiles, audit⟩ := others
  cases s
  cases s'
  simp only at requests tokens notifications profiles audit
  rw [requests, tokens, notifications, profiles, audit]

variable {u v : Visit}

theorem agreesOn_visit_visit (s : Store) (apart : ∀ id ∈ u.call.ids, id ∉ v.call.ids) :
    ((s.visit u).visit v).AgreesOn u.call.ids ((s.visit v).visit u) :=
  ((s.visit u).agreesOn_visit apart).symm.trans (s.agreesOn_visit apart).visit

/-- Visits about different requests can be made in either order. -/
theorem visit_visit_comm (s : Store) (apart : ∀ id ∈ u.call.ids, id ∉ v.call.ids)
    (first : u.call.isConsequence = false) (second : v.call.isConsequence = false) :
    (s.visit u).visit v = (s.visit v).visit u := by
  have apart' : ∀ id ∈ v.call.ids, id ∉ u.call.ids := fun id theirs ours => apart id ours theirs
  refine eq_of_agreesOn (fun id => ?_) ?_
  · by_cases ours : id ∈ u.call.ids
    · exact (s.agreesOn_visit_visit apart).single ours
    · by_cases theirs : id ∈ v.call.ids
      · exact (s.agreesOn_visit_visit apart').symm.single theirs
      · have past (t : Store) {w : Visit} (other : id ∉ w.call.ids) : t.AgreesOn [id] (t.visit w) :=
          t.agreesOn_visit (List.forall_mem_singleton.2 other)
        exact ((past s ours).trans (past _ theirs)).symm.trans ((past s theirs).trans (past _ ours))
  · simp only [consequences_visit, first, second, and_self]

end Store

namespace World

variable {c d : StoreCall}

/-- What a call is answered, and what it makes of the records under its ids, is settled by these. -/
theorem answerStore_of_agreesOn {w w' : World} (reach : w'.up c = w.up c)
    (h : w.store.AgreesOn c.ids w'.store) :
    (w'.answerStore c).1 = (w.answerStore c).1 ∧
      (w.answerStore c).2.store.AgreesOn c.ids (w'.answerStore c).2.store := by
  refine ⟨?_, ?_⟩
  · unfold answerStore
    rw [reach]
    split
    · obtain ⟨reply, t, t', left, right, -⟩ | ⟨e, left, right⟩ := h.answer
      · rw [left, right]
      · rw [left, right]
    · rfl
  · rw [answerStore_visit, answerStore_visit, reach]
    exact Store.AgreesOn.visit (v := ⟨c, w.up c⟩) h

/-- **Calls about different requests do not interfere.** Take two calls on requests and tokens that name
no id in common, in a world in which the store answers some calls and is unavailable for others, whatever
is on record. Each is answered alike before and after the other, and the two orders lead to the same
world. Moreover a call leaves the records under all ids but its own alone, and both its answer and what it
makes of its own are the same whatever is on record under the others. -/
theorem calls_about_different_requests_commute (w : World) (first : c.isConsequence = false)
    (second : d.isConsequence = false) (apart : ∀ id ∈ c.ids, id ∉ d.ids) :
    ((w.answerStore d).2.answerStore c).1 = (w.answerStore c).1 ∧
      ((w.answerStore c).2.answerStore d).1 = (w.answerStore d).1 ∧
      ((w.answerStore c).2.answerStore d).2 = ((w.answerStore d).2.answerStore c).2 ∧
      (∀ ids, (∀ id ∈ ids, id ∉ c.ids) → w.store.AgreesOn ids (w.answerStore c).2.store) ∧
      ∀ w' : World, w'.up c = w.up c → w.store.AgreesOn c.ids w'.store →
        (w'.answerStore c).1 = (w.answerStore c).1 ∧
          (w.answerStore c).2.store.AgreesOn c.ids (w'.answerStore c).2.store := by
  have untouched {c d : StoreCall} (apart : ∀ id ∈ c.ids, id ∉ d.ids) :
      ((w.answerStore d).2.answerStore c).1 = (w.answerStore c).1 := by
    refine (answerStore_of_agreesOn ?_ ?_).1
    · rw [answerStore_visit]
    · rw [answerStore_visit]
      exact w.store.agreesOn_visit (v := ⟨d, w.up d⟩) apart
  refine ⟨untouched apart, untouched fun id theirs ours => apart id ours theirs, ?_, ?_, ?_⟩
  · simp only [answerStore_visit]
    rw [w.store.visit_visit_comm (u := ⟨c, w.up c⟩) (v := ⟨d, w.up d⟩) apart first second]
  · intro ids others
    rw [answerStore_visit]
    exact w.store.agreesOn_visit others
  · exact fun w' reach => answerStore_of_agreesOn reach

/-- The approval of Ann's request through the link. -/
def annsApproval : StoreCall :=
  .commit "r1" .approve .emailLink (some ⟨"abc", 86400000⟩) ⟨1, 0⟩

/-- A submission whose token goes under another id than the request. -/
def strayTokenSubmission : StoreCall :=
  .insertSubmission { annsRequest with id := "r2" } (Token.new "r3" "def" ⟨1, 0⟩)

/-- The approval is carried out, and it is so before and after the submission; nor does the order matter
to the world. -/
theorem annsApproval_and_strayTokenSubmission_commute :
    let w := withAnnsRequest
    (w.answerStore annsApproval).1 =
        .ok (.ok (.committed .pending (annsRequest.decided .approve .emailLink ⟨1, 0⟩))) ∧
      ((w.answerStore strayTokenSubmission).2.answerStore annsApproval).1 =
        (w.answerStore annsApproval).1 ∧
      ((w.answerStore annsApproval).2.answerStore strayTokenSubmission).1 =
        (w.answerStore strayTokenSubmission).1 ∧
      ((w.answerStore annsApproval).2.answerStore strayTokenSubmission).2 =
        ((w.answerStore strayTokenSubmission).2.answerStore annsApproval).2 := by
  obtain ⟨one, other, same, -⟩ := calls_about_different_requests_commute withAnnsRequest
    (c := annsApproval) (d := strayTokenSubmission) rfl rfl (by decide)
  exact ⟨rfl, one, other, same⟩

end World

end ApprovalDesk
