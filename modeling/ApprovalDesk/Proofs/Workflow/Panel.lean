import ApprovalDesk.Proofs.Workflow.Runs

/-!
# Decisions in the panel

An administrator in the panel decides without a string. What comes of it hangs on the record of the
request alone (`PanelEnd`), and where the link would have decided too, the panel leaves behind what the
link would have left, under another name: the record, its token and the event that tells of it are
written by the same step of the store.
-/

namespace ApprovalDesk

set_option autoImplicit false

open ApprovalDesk.Text ApprovalDesk.Time ApprovalDesk.Workflow

/-- A decided record, put down to another actor. -/
def Request.creditedTo (r : Request) (a : Actor) : Request :=
  match r.status with
  | .pending => r
  | .approved => { r with processedVia := some a.via, approvedBy := some a.name }
  | .rejected => { r with processedVia := some a.via, rejectedBy := some a.name }

theorem Request.creditedTo_decided (r : Request) (d : Decision) (a b : Actor) (now : Instant) :
    (r.decided d a now).creditedTo b = r.decided d b now := by
  cases d <;> rfl

theorem Request.processedBy_decided (r : Request) (d : Decision) (a : Actor) (now : Instant) :
    (r.decided d a now).processedBy = some a.name := by
  cases d <;> rfl

theorem Request.processedVia_decided (r : Request) (d : Decision) (a : Actor) (now : Instant) :
    (r.decided d a now).processedVia = some a.via := by
  cases d <;> rfl

namespace World

variable {w : World} {id : String} {d : Decision}

/-! ## What is settled -/

/-- The events that a reader of the queue finds of one that is announced. -/
def heard (w : World) (e : Event) : List Event := if w.listening then [e] else []

theorem announce_queue (w : World) (e : Event) : (w.announce e).queue = w.queue ++ w.heard e := by
  unfold announce heard
  cases w.listening with
  | true => rfl
  | false => exact (List.append_nil _).symm

theorem settle_queue (w : World) (id : String) (after : Request) :
    (w.settle id after).queue = w.queue ++ w.heard (.statusChanged ⟨.pending, after⟩) :=
  announce_queue _ _

/-- The token of a settled request is used up; one that was used before stays as it is. -/
theorem settle_token (w : World) (id : String) (after : Request) :
    (w.settle id after).store.tokens.find? id = (w.store.tokens.find? id).map fun t =>
      if t.used then t else { t with used := true, usedAt := some w.now } := by
  rw [settle, announce_store]
  dsimp only
  rw [Table.find?_modify, if_pos rfl]
  rfl

/-- The record under which a decision is settled makes no difference to anything but that record and the
event that tells of it. -/
theorem settle_eq_of_settle (w : World) (id : String) (after other : Request) :
    w.settle id other = { w.settle id after with
      store := { (w.settle id after).store with
        requests := (w.settle id after).store.requests.insert id other }
      queue := w.queue ++ w.heard (.statusChanged ⟨.pending, other⟩) } := by
  have overwritten : w.store.requests.insert id other =
      (w.store.requests.insert id after).insert id other := by
    apply Table.ext
    intro key
    rw [Table.find?_insert, Table.find?_insert, Table.find?_insert]
    split <;> rfl
  unfold settle announce heard
  cases w.listening with
  | true =>
    simp only [if_true]
    rw [overwritten]
  | false =>
    simp only [Bool.false_eq_true, if_false, List.append_nil]
    rw [overwritten]

/-! ## The ends of a decision in the panel -/

/-- What a decision of the actor `a` without a string comes to, and what it leaves behind. -/
inductive PanelEnd (w : World) (id : String) (d : Decision) (a : Actor) :
    Except Failure Outcome → World → Prop where
  | missing (absent : w.store.requests.find? id = none) : PanelEnd w id d a (.error requestNotFound) w
  | settled (r : Request) (found : w.store.requests.find? id = some r)
      (terminal : r.status.isTerminal = true) :
      PanelEnd w id d a (.ok (.alreadyProcessed r.status)) w
  | carried (r : Request) (found : w.store.requests.find? id = some r) (pending : r.status = .pending) :
      PanelEnd w id d a (.ok (.processed (r.decided d a w.now))) (w.settle id (r.decided d a w.now))

/-- A decision without a string is never turned away. -/
theorem run_commit_unguarded {a : Actor} (up : w.up (.commit id d a none w.now) = true) :
    ∃ result left, w.run (commit id d a none).run = (.ok result, left) ∧
      PanelEnd w id d a result left := by
  have ends := w.store.commit_cases id d a none w.now
  cases result : w.store.commit id d a none w.now with
  | error c =>
    rw [result] at ends
    cases ends with
    | crashed r _ found pending guard => cases guard
  | ok pair =>
    have answered : w.store.answer (.commit id d a none w.now) = .ok (.ok pair.1, pair.2) := by
      rw [Store.answer, result]
      rfl
    rw [result] at ends
    cases ends with
    | missing absent => exact ⟨_, _, (run_commit_refused up answered).1, .missing absent⟩
    | settled r found terminal =>
      exact ⟨_, _, (run_commit_refused up answered).1, .settled r found terminal⟩
    | barred r v found pending guard invalid =>
      cases guard
      exact absurd rfl invalid
    | carried r found pending guard =>
      exact ⟨_, _, run_commit_carried up found pending guard, .carried r found pending⟩

/-- Where a link has decided, a pending request was found and settled. -/
theorem run_process_processed {ttl : Int} {supplied : String} {after : Request} {linked : World}
    (decided : w.run (process ttl id supplied d).run = (.ok (.ok (.processed after)), linked)) :
    ∃ r, w.store.requests.find? id = some r ∧ r.status = .pending ∧
      after = r.decided d .emailLink w.now ∧ linked = w.settle id after := by
  rw [run_process] at decided
  generalize w.inspection ttl id supplied = found at decided
  rcases found with c | e | r | status
  · cases decided
  · cases decided
  · rcases w.run_commit_cases id d .emailLink (some ⟨supplied, ttl⟩) with
      ⟨r, found, pending, -, run, -⟩ | ⟨out, run, -, notProcessed⟩
    · rw [run] at decided
      cases decided
      exact ⟨r, found, pending, rfl, rfl⟩
    · rw [run] at decided
      cases decided
      exact absurd rfl (notProcessed after)
  · cases decided

/-! ## The panel beside the link -/

/-- What holds of a decision by the actor `a` in the panel that came to `result` and left the world
`left` behind, whatever token is on record. -/
structure PanelAccount (w : World) (id : String) (d : Decision) (a : Actor)
    (result : Except Failure Outcome) (left : World) : Prop where
  notFound : result = .error requestNotFound ↔ w.store.requests.find? id = none
  alreadyProcessed : ∀ status, result = .ok (.alreadyProcessed status) ↔
    ∃ r, w.store.requests.find? id = some r ∧ r.status = status ∧ status.isTerminal = true
  processed : (∃ after, result = .ok (.processed after)) ↔
    ∃ r, w.store.requests.find? id = some r ∧ r.status = .pending
  not_forbidden : result ≠ .error .forbidden
  /-- Without a decision nothing changes. -/
  unchanged : (∀ after, result ≠ .ok (.processed after)) → left = w
  /-- A decision uses the token up; one that was used before stays as it is. -/
  token : ∀ after, result = .ok (.processed after) →
    left.store.tokens.find? id = (w.store.tokens.find? id).map fun t =>
      if t.used then t else { t with used := true, usedAt := some w.now }
  /-- Where the link would have decided, the panel leaves the same behind, put down to `a`. -/
  link : ∀ (ttl : Int) (supplied : String) (after : Request) (linked : World),
    w.run (process ttl id supplied d).run = (.ok (.ok (.processed after)), linked) →
    after.processedBy = some "email_link" ∧ after.processedVia = some .email ∧
    linked.queue = w.queue ++ w.heard (.statusChanged ⟨.pending, after⟩) ∧
    result = .ok (.processed (after.creditedTo a)) ∧
    left = { linked with
      store := { linked.store with
        requests := linked.store.requests.insert id (after.creditedTo a) }
      queue := w.queue ++ w.heard (.statusChanged ⟨.pending, after.creditedTo a⟩) }

theorem PanelEnd.account {a : Actor} {result : Except Failure Outcome} {left : World}
    (ended : PanelEnd w id d a result left) : PanelAccount w id d a result left := by
  cases ended with
  | missing absent =>
    constructor
    case notFound => simp [absent]
    case alreadyProcessed => simp [absent]
    case processed => simp [absent]
    case not_forbidden => simp [requestNotFound]
    case unchanged => exact fun _ => rfl
    case token =>
      intro after processed
      cases processed
    case link =>
      intro ttl supplied after linked decided
      obtain ⟨r, found, -⟩ := run_process_processed decided
      rw [absent] at found
      cases found
  | settled r found terminal =>
    have notPending : r.status ≠ .pending := by
      intro pending
      rw [pending] at terminal
      cases terminal
    constructor
    case notFound => simp [found]
    case alreadyProcessed =>
      intro status
      rw [found]
      constructor
      · intro same
        cases same
        exact ⟨r, rfl, rfl, terminal⟩
      · rintro ⟨_, same, rfl, -⟩
        cases same
        rfl
    case processed => simp [found, notPending]
    case not_forbidden => simp
    case unchanged => exact fun _ => rfl
    case token =>
      intro after processed
      cases processed
    case link =>
      intro ttl supplied after linked decided
      obtain ⟨_, same, pending, -⟩ := run_process_processed decided
      rw [found] at same
      cases same
      exact absurd pending notPending
  | carried r found pending =>
    constructor
    case notFound => simp [found]
    case alreadyProcessed =>
      intro status
      rw [found]
      constructor
      · intro same
        cases same
      · rintro ⟨_, same, rfl, terminal⟩
        cases same
        rw [pending] at terminal
        cases terminal
    case processed => simp [found, pending]
    case not_forbidden => simp
    case unchanged =>
      intro notProcessed
      exact absurd rfl (notProcessed _)
    case token =>
      intro after _
      exact w.settle_token id _
    case link =>
      intro ttl supplied after linked decided
      obtain ⟨_, same, -, rfl, rfl⟩ := run_process_processed decided
      rw [found] at same
      cases same
      rw [Request.creditedTo_decided]
      refine ⟨?_, ?_, settle_queue w id _, rfl, settle_eq_of_settle w id _ _⟩
      · rw [Request.processedBy_decided]
        rfl
      · rw [Request.processedVia_decided]
        rfl

/-- **The panel is the link without the gate.** Without the name of an administrator a decision in the
panel is refused and nothing changes. With one, and with a store that takes the call, it comes to what
the record alone says, whatever token there is; it uses the token up, and where the link would have
decided at that instant it leaves the same store and the same queue, but for who decided and over which
channel. -/
theorem panel_is_the_link_without_the_gate (w : World) (id adminId : String) (d : Decision) :
    (isBlankText adminId = true →
      w.run (processViaPanel id d adminId).run =
        (.ok (.error (.invalid "An administrator id is required")), w)) ∧
    (isBlankText adminId = false →
      w.up (.commit id d (.panel (trim adminId)) none w.now) = true →
      ∃ result left, w.run (processViaPanel id d adminId).run = (.ok result, left) ∧
        PanelAccount w id d (.panel (trim adminId)) result left) := by
  rw [processViaPanel_steps]
  constructor
  · intro blank
    have empty : (trim adminId).isEmpty = true := blank
    rw [if_pos empty]
    rfl
  · intro named up
    have nonempty : ¬ (trim adminId).isEmpty = true := by
      intro blank
      rw [isBlankText, blank] at named
      cases named
    rw [if_neg nonempty]
    obtain ⟨result, left, run, ended⟩ := run_commit_unguarded up
    exact ⟨result, left, run, ended.account⟩

/-- In the panel Ann's request is approved by `root`, and by nobody without a name. -/
theorem annsApproval_in_the_panel :
    (isBlankText " " = true ∧ withAnnsRequest.run (processViaPanel "r1" .approve " ").run =
      (.ok (.error (.invalid "An administrator id is required")), withAnnsRequest)) ∧
    isBlankText "root" = false ∧
    withAnnsRequest.up (.commit "r1" .approve (.panel "root") none ⟨1, 0⟩) = true ∧
    ∃ left, withAnnsRequest.run (processViaPanel "r1" .approve "root").run =
        (.ok (.ok (.processed (annsRequest.decided .approve (.panel "root") ⟨1, 0⟩))), left) ∧
      PanelAccount withAnnsRequest "r1" .approve (.panel "root")
        (.ok (.processed (annsRequest.decided .approve (.panel "root") ⟨1, 0⟩))) left := by
  have blank : isBlankText " " = true := by decide
  have named : isBlankText "root" = false := by decide
  have trimmed : trim "root" = "root" := by decide
  have approved : withAnnsRequest.run (processViaPanel "r1" .approve "root").run =
      (.ok (.ok (.processed (annsRequest.decided .approve (.panel "root") ⟨1, 0⟩))),
        withAnnsRequest.settle "r1" (annsRequest.decided .approve (.panel "root") ⟨1, 0⟩)) := by
    rw [processViaPanel_steps, trimmed]
    rfl
  obtain ⟨refused, -⟩ := panel_is_the_link_without_the_gate withAnnsRequest "r1" " " .approve
  obtain ⟨-, decides⟩ := panel_is_the_link_without_the_gate withAnnsRequest "r1" "root" .approve
  obtain ⟨result, left, run, account⟩ := decides named rfl
  rw [trimmed] at account
  rw [approved] at run
  cases run
  exact ⟨⟨blank, refused blank⟩, named, rfl, _, approved, account⟩

/-- A token on record as unused, but with a time of use, gets a new one when the panel decides. -/
theorem usedAt_of_unused_token_is_replaced_in_the_panel :
    ¬ ∀ (w : World) (id adminId : String) (d : Decision) (after : Request) (left : World) (t : Token)
      (moment : Instant), isBlankText adminId = false → (∀ call, w.up call = true) →
      w.run (processViaPanel id d adminId).run = (.ok (.ok (.processed after)), left) →
      w.store.tokens.find? id = some t → t.usedAt = some moment →
      ∃ t', left.store.tokens.find? id = some t' ∧ t'.used = true ∧ t'.usedAt = some moment := by
  intro kept
  let odd : Token := ⟨"r1", "abc", ⟨0, 0⟩, false, some ⟨0, 0⟩⟩
  let w : World := quiet { Store.empty with
    requests := Table.empty.insert "r1" annsRequest
    tokens := Table.empty.insert "r1" odd } ⟨1, 0⟩
  have root : trim "root" = "root" := by decide
  have decided : w.run (processViaPanel "r1" .approve "root").run =
      (.ok (.ok (.processed (annsRequest.decided .approve (.panel "root") ⟨1, 0⟩))),
        w.settle "r1" (annsRequest.decided .approve (.panel "root") ⟨1, 0⟩)) := by
    rw [processViaPanel_steps, root]
    rfl
  obtain ⟨t', found, -, same⟩ :=
    kept w "r1" "root" .approve _ _ odd ⟨0, 0⟩ (by decide) (fun _ => rfl) decided rfl rfl
  have marked : t' = odd.markUsed ⟨1, 0⟩ := (Option.some.inj found).symm
  rw [marked] at same
  exact absurd same (by decide)

end World

end ApprovalDesk
