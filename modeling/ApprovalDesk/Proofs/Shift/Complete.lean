import ApprovalDesk.Proofs.Shift.Basic

/-!
# Nothing by halves

A call that fails has changed nothing, however the store, the clock and the random bytes behaved between
its steps; a submission that succeeds has stored the request and its token. So at the end of a shift
every submitted request has its token, and every token was handed out by a call that succeeded.
-/

namespace ApprovalDesk

set_option autoImplicit false

open ApprovalDesk.Workflow ApprovalDesk.Time

/-- The call came to a failure. -/
def Answer.failed : Answer → Bool
  | .submitted (.error _) | .found (.error _) | .inspected (.error _) | .issued (.error _)
  | .marked (.error _) | .decided (.error _) => true
  | .submitted (.ok _) | .found (.ok _) | .inspected (.ok _) | .issued (.ok _) | .marked (.ok _)
  | .decided (.ok _) | .validated _ | .handled _ => false

/-- The call of the receipt created the token of the request `id`. -/
inductive Receipt.Creates (id : String) : Receipt → Prop where
  | issued (secret : String) (store : Store) : Creates id ⟨.issue id, .ok (.issued (.ok secret)), store⟩
  | submitted (data : Submission) (r : Request) (store : Store) (own : r.id = id) :
      Creates id ⟨.submit data, .ok (.submitted (.ok r)), store⟩

/-! ## One call -/

/-- A failure tells of no deed. -/
theorem Answer.modest_of_failed {a : Answer} (failed : a.failed = true) : a.claims = false := by
  unfold Answer.failed at failed
  split at failed <;> first | rfl | cases failed

namespace Scene

variable {x : Scene}

/-- A call that fails, or is cut short, has changed nothing. -/
theorem unchanged_of_failed (s : Settings) {c : Call} (service : c.isService = true)
    (failed : ∀ a, (x.run (c.flow s)).1 = .ok a → a.failed = true) :
    (x.run (c.flow s)).2.world.store = x.world.store ∧
      (x.run (c.flow s)).2.world.queue = x.world.queue :=
  unchanged_of_modest s service fun a answered => Answer.modest_of_failed (failed a answered)

/-- The records that a successful submission adds. -/
structure Admitted (r : Request) (before after : Store) : Prop where
  pending : r.status = .pending
  newRequest : before.requests.find? r.id = none
  newToken : before.tokens.find? r.id = none
  stored : ∃ t, t.requestId = r.id ∧ t.used = false ∧ after = { before with
    requests := before.requests.insert r.id r
    tokens := before.tokens.insert r.id t }

/-- A submission that succeeds has stored the request and its token. -/
theorem admitted_of_submitted (s : Settings) {data : Submission} {r : Request}
    (submitted : (x.run ((Call.submit data).flow s)).1 = .ok (.submitted (.ok r))) :
    Admitted r x.world.store (x.run ((Call.submit data).flow s)).2.world.store := by
  obtain ⟨deed, explains, store, -⟩ := x.run_call s (c := .submit data) rfl
  rw [submitted] at explains
  rw [store]
  cases explains with
  | nothing modest => cases modest _ rfl
  | submitted complete newRequest newToken => exact ⟨rfl, newRequest, newToken, _, rfl, rfl, rfl⟩

end Scene

/-! ## Shifts -/

namespace Shift

/-- No submission was left half done since the store was `start`. -/
structure Complete (start : Store) (x : Shift) : Prop where
  /-- What was answered as submitted is on record, and so is its token. -/
  submitted : ∀ e ∈ x.receipts, ∀ r, e.answer = .ok (.submitted (.ok r)) →
    (∃ r', x.store.requests.find? r.id = some r' ∧ r.Continues r') ∧
      ∃ t, x.store.tokens.find? r.id = some t ∧ t.requestId = r.id
  /-- A request that came in was answered as submitted. -/
  requests : ∀ id r, x.store.requests.find? id = some r → start.requests.find? id = none →
    ∃ e ∈ x.receipts, ∃ r₀, e.answer = .ok (.submitted (.ok r₀)) ∧ r₀.id = id
  /-- A token that came in was created by a call that succeeded. -/
  tokens : ∀ id t, x.store.tokens.find? id = some t → start.tokens.find? id = none →
    ∃ e ∈ x.receipts, e.Creates id

end Shift

namespace Deed.Explains

variable {s : Store} {deed : Deed} {c : Call} {answer : Except Crash Answer}

/-- A request comes in only with a submission that succeeds. -/
theorem of_new_request (explains : deed.Explains s c answer) {id : String} {r : Request}
    (absent : s.requests.find? id = none) (found : (deed.store s).requests.find? id = some r) :
    ∃ r₀, answer = .ok (.submitted (.ok r₀)) ∧ r₀.id = id := by
  cases explains with
  | nothing | issued | marked =>
    have same : s.requests.find? id = some r := found
    rw [absent] at same
    cases same
  | submitted complete =>
    rw [Deed.store, Table.find?_insert] at found
    split at found
    · next own => exact ⟨_, rfl, own.symm⟩
    · rw [absent] at found
      cases found
  | decided puts known =>
    rw [Deed.store, Table.find?_insert] at found
    split at found
    · next own =>
      rw [own, known] at absent
      cases absent
    · rw [absent] at found
      cases found

/-- A token comes in only with a call that succeeds in creating it. -/
theorem of_new_token (explains : deed.Explains s c answer) {id : String} {t : Token}
    (absent : s.tokens.find? id = none) (found : (deed.store s).tokens.find? id = some t)
    (store : Store) : Receipt.Creates id ⟨c, answer, store⟩ := by
  cases explains with
  | nothing =>
    have same : s.tokens.find? id = some t := found
    rw [absent] at same
    cases same
  | submitted complete =>
    rw [Deed.store, Table.find?_insert] at found
    split at found
    · next own => exact .submitted _ _ _ own.symm
    · rw [absent] at found
      cases found
  | issued =>
    rw [Deed.store, Table.find?_insert] at found
    split at found
    · next own =>
      obtain rfl : id = _ := own
      exact .issued _ _
    · rw [absent] at found
      cases found
  | marked | decided =>
    rw [Deed.store, Table.find?_modify] at found
    split at found
    · next own =>
      rw [← own, absent] at found
      cases found
    · rw [absent] at found
      cases found

/-- A submission that succeeded is on record. -/
theorem of_submitted {r : Request} (explains : deed.Explains s c (.ok (.submitted (.ok r)))) :
    (deed.store s).requests.find? r.id = some r ∧
      ∃ t, (deed.store s).tokens.find? r.id = some t ∧ t.requestId = r.id := by
  cases explains with
  | nothing modest => cases modest _ rfl
  | @submitted data id secret now later =>
    obtain ⟨request, token⟩ :=
      Deed.stored_submitted s (Request.new id data now) (Token.new id secret later) rfl
    exact ⟨request, _, token, rfl⟩

end Deed.Explains

namespace Shift.Complete

variable {start : Store} {x y : Shift}

theorem opening (w : World) : Complete w.store (opening w) where
  submitted e member := by cases member
  requests id r found absent := by
    rw [Shift.store, Shift.opening, absent] at found
    cases found
  tokens id t found absent := by
    rw [Shift.store, Shift.opening, absent] at found
    cases found

/-- What was submitted before stays on record. -/
theorem earlier (h : Complete start x) (goes_on : x.store.Continues y.store) :
    ∀ e ∈ x.receipts, ∀ r, e.answer = .ok (.submitted (.ok r)) →
      (∃ r', y.store.requests.find? r.id = some r' ∧ r.Continues r') ∧
        ∃ t, y.store.tokens.find? r.id = some t ∧ t.requestId = r.id := by
  intro e member r answer
  obtain ⟨⟨r', found, known⟩, t, token, own⟩ := h.submitted e member r answer
  obtain ⟨r'', found', later⟩ := goes_on.requests _ _ found
  obtain ⟨t', token', kept⟩ := goes_on.tokens _ _ token
  exact ⟨⟨r'', found', known.trans later⟩, t', token', kept.requestId.trans own⟩

/-- A job that brings in neither requests nor tokens, nor an answer that tells of one. -/
theorem of_same_records (h : Complete start x) (goes_on : x.store.Continues y.store)
    (records : y.store.requests = x.store.requests ∧ y.store.tokens = x.store.tokens)
    {more : List Receipt} (receipts : y.receipts = x.receipts ++ more)
    (modest : ∀ e ∈ more, ∀ a, e.answer = .ok a → a.claims = false) : Complete start y where
  submitted e member r answer := by
    rw [receipts] at member
    rcases List.mem_append.1 member with before | last
    · exact h.earlier goes_on e before r answer
    · cases modest e last _ answer
  requests id r found absent := by
    rw [records.1] at found
    obtain ⟨e, member, told⟩ := h.requests id r found absent
    exact ⟨e, receipts ▸ List.mem_append_left _ member, told⟩
  tokens id t found absent := by
    rw [records.2] at found
    obtain ⟨e, member, creates⟩ := h.tokens id t found absent
    exact ⟨e, receipts ▸ List.mem_append_left _ member, creates⟩

/-- A call to the workflow leaves no submission half done. -/
theorem served (h : Complete start x) {c : Call} {answer : Except Crash Answer} {deed : Deed}
    {w : World} (explains : deed.Explains x.store c answer) (store : w.store = deed.store x.store)
    (goes_on : x.store.Continues w.store) :
    Complete start ⟨w, x.handled, x.receipts ++ [⟨c, answer, w.store⟩]⟩ where
  submitted e member r told := by
    rcases List.mem_append.1 member with before | last
    · exact h.earlier (y := ⟨w, x.handled, _⟩) goes_on e before r told
    · cases List.mem_singleton.1 last
      cases told
      obtain ⟨found, t, token, own⟩ := explains.of_submitted
      rw [Shift.store, store]
      exact ⟨⟨r, found, .refl r⟩, t, token, own⟩
  requests id r found absent := by
    cases known : x.store.requests.find? id with
    | some r' =>
      obtain ⟨e, member, told⟩ := h.requests id r' known absent
      exact ⟨e, List.mem_append_left _ member, told⟩
    | none =>
      rw [Shift.store, store] at found
      obtain ⟨r₀, told, own⟩ := explains.of_new_request known found
      exact ⟨_, List.mem_append_right _ (List.mem_singleton_self _), r₀, told, own⟩
  tokens id t found absent := by
    cases known : x.store.tokens.find? id with
    | some t' =>
      obtain ⟨e, member, creates⟩ := h.tokens id t' known absent
      exact ⟨e, List.mem_append_left _ member, creates⟩
    | none =>
      rw [Shift.store, store] at found
      exact ⟨_, List.mem_append_right _ (List.mem_singleton_self _),
        explains.of_new_token known found _⟩

/-- Every job leaves no submission half done. -/
theorem job (h : Complete start x) (s : Settings) (j : Job) : Complete start (x.job s j) := by
  have goes_on := x.continues_job s j
  have outcome := x.job_outcome s j
  generalize x.job s j = y at goes_on outcome ⊢
  cases outcome with
  | served service explains store => exact h.served explains store goes_on
  | told modest aftermath =>
    refine h.of_same_records goes_on aftermath.records rfl fun e member => ?_
    cases List.mem_singleton.1 member
    exact modest
  | idle => exact h
  | dispatched _ aftermath =>
    exact h.of_same_records goes_on aftermath.records (List.append_nil _).symm (by simp)

end Shift.Complete

namespace Shift

/-- **Nothing is done by halves.** A call to the workflow that fails changes nothing, whatever the weather
during the call; one that submits a request stores it with its token; and no shift leaves a submission
half done. -/
theorem nothing_by_halves (s : Settings) :
    (∀ (x : Scene) (c : Call), c.isService = true →
      (∀ a, (x.run (c.flow s)).1 = .ok a → a.failed = true) →
      (x.run (c.flow s)).2.world.store = x.world.store ∧
        (x.run (c.flow s)).2.world.queue = x.world.queue) ∧
    (∀ (x : Scene) (data : Submission) (r : Request),
      (x.run ((Call.submit data).flow s)).1 = .ok (.submitted (.ok r)) →
      Scene.Admitted r x.world.store (x.run ((Call.submit data).flow s)).2.world.store) ∧
    ∀ (w : World) (js : List Job), Complete w.store ((opening w).jobs s js) := by
  refine ⟨?_, ?_, ?_⟩
  · intro x c service failed
    exact Scene.unchanged_of_failed s service failed
  · intro x data r submitted
    exact Scene.admitted_of_submitted s submitted
  · intro w js
    exact jobs_keep (Complete w.store) (fun x j _ h => h.job s j) (.opening w)

/-- The store goes down after the fourth step of a call. -/
def outage : Sky := fun n => { Sky.fair n with storeUp := n < 4 }

/-- Ann's request is taken in while the weather is fair. When whoever holds the link decides about one,
the store goes down after the inspection, the decision does not reach it, and nothing has changed. -/
theorem link_meets_outage :
    let s : Settings := ⟨"", "", 5000, "", none⟩
    let broken := Scene.run ((Call.process "r1" "abc" .approve).flow s) ⟨World.withAnnsRequest, outage⟩
    let taken := Scene.run ((Call.submit ⟨"u1", "Ann", "ann@example.org", none, none⟩).flow s)
      ⟨World.quiet .empty ⟨0, 0⟩, .fair⟩
    broken.1 = .ok (.decided (.error (.storage .unavailable))) ∧
      broken.2.world.store = World.withAnnsRequest.store ∧
      broken.2.world.queue = World.withAnnsRequest.queue ∧
      ∃ r, taken.1 = .ok (.submitted (.ok r)) ∧ Scene.Admitted r .empty taken.2.world.store := by
  obtain ⟨unchanged, admitted, -⟩ := nothing_by_halves ⟨"", "", 5000, "", none⟩
  obtain ⟨store, queue⟩ := unchanged ⟨World.withAnnsRequest, outage⟩ (.process "r1" "abc" .approve) rfl
    (by rintro a ⟨⟩; rfl)
  exact ⟨rfl, store, queue, _, rfl, admitted ⟨World.quiet .empty ⟨0, 0⟩, .fair⟩ _ _ rfl⟩

end Shift

end ApprovalDesk
