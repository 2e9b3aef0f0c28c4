import Mathlib.Data.List.Nodup
import ApprovalDesk.Proofs.Shift.Events

/-!
# Every decision is settled once

The dispatcher handles the events in the order of the queue, and as long as the store is up meanwhile
each decision leads to one audit entry, one notification and, for an approval, the badge. What is on
record of consequences therefore follows the decisions among the handled events, one by one
(`Store.Follows`). Once the queue is empty these are all the decisions on record, each once, and the books
are settled (`Store.Settled`).
-/

namespace ApprovalDesk

set_option autoImplicit false

open ApprovalDesk.Json

/-! ## What consequences tell -/

/-- What a decision is called among its consequences. -/
def Status.verdict? : Status → Option String
  | .pending => none
  | .approved => some "certification_approved"
  | .rejected => some "certification_rejected"

/-- The entry tells of the decision about the request. -/
structure AuditEntry.TellsOf (e : AuditEntry) (r : Request) : Prop where
  requestId : e.requestId = r.id
  userId : e.userId = r.userId
  userName : e.userName = r.userName
  action : some e.action = r.status.verdict?
  performedBy : e.performedBy = r.processedBy
  processedVia : e.processedVia = r.processedVia
  rejectionReason : e.rejectionReason = r.rejectionReason

/-- The notification tells its user of the decision about the request. -/
structure Notification.TellsOf (n : Notification) (r : Request) : Prop where
  userId : n.userId = r.userId
  kind : some n.kind = r.status.verdict?
  metadata : n.metadata = .obj [
    ("certificationStatus", .str r.status.name),
    ("rejectionReason", (r.rejectionReason.map Json.str).getD .null)]

theorem AuditEntry.tellsOf_forDecision {r : Request} {id : Uuid} {now : Time.Instant} {e : AuditEntry}
    (entry : forDecision r id now = some e) : e.TellsOf r := by
  unfold forDecision at entry
  cases status : r.status with
  | pending =>
    rw [status] at entry
    cases entry
  | approved | rejected =>
    rw [status] at entry
    cases entry
    exact ⟨rfl, rfl, rfl, by rw [status]; rfl, rfl, rfl, rfl⟩

theorem Notification.tellsOf_forDecision {r : Request} {id : Uuid} {now : Time.Instant}
    {n : Notification} (notification : forDecision r id now = some n) : n.TellsOf r := by
  unfold forDecision at notification
  cases status : r.status with
  | pending =>
    rw [status] at notification
    cases notification
  | approved | rejected =>
    rw [status] at notification
    cases notification
    refine ⟨rfl, by rw [status]; rfl, ?_⟩
    rw [status]
    cases r.rejectionReason <;> rfl

/-! ## Decisions among events -/

namespace Event

/-- The record that an event announces as decided. -/
def verdict? : Event → Option Request
  | .submitted .. => none
  | .statusChanged c => if c.isDecision then some c.after else none

/-- The decided records that the events announce, in order. -/
def verdicts (es : List Event) : List Request := es.filterMap verdict?

theorem verdicts_append (es more : List Event) : verdicts (es ++ more) = verdicts es ++ verdicts more :=
  List.filterMap_append

theorem verdicts_of_idle {c : StatusChange} (idle : c.isDecision = false) :
    verdicts [.statusChanged c] = [] := by
  rw [verdicts, List.filterMap_cons, verdict?, idle]
  rfl

theorem verdicts_of_decision {c : StatusChange} (decision : c.isDecision = true) :
    verdicts [.statusChanged c] = [c.after] := by
  rw [verdicts, List.filterMap_cons, verdict?, decision]
  rfl

/-- The decisions about a request are announced by the events about it. -/
theorem verdicts_about (id : String) (es : List Event) :
    verdicts (about id es) = (verdicts es).filter (·.id == id) := by
  rw [verdicts, verdicts, about, List.filterMap_filter, List.filter_filterMap]
  congr 1
  funext e
  cases e with
  | submitted r token =>
    rw [verdict?, ite_self]
    rfl
  | statusChanged c =>
    cases decision : c.isDecision <;> simp [verdict?, decision, requestId, Option.filter_some]

/-- A chronicle announces the decision on record, if there is one. -/
theorem Chronicle.verdicts {id : String} {es : List Event} {record : Option Request}
    (h : Chronicle id es record) :
    Event.verdicts es = record.toList.filter (·.status.isTerminal) := by
  cases h with
  | unknown => rfl
  | submitted own pending => simp [Event.verdicts, verdict?, pending, Status.isTerminal]
  | @decided r after secret _ _ decision =>
    have terminal : after.status.isTerminal = true := StatusChange.terminal_of_isDecision decision
    calc Event.verdicts [.submitted r secret, .statusChanged ⟨.pending, after⟩]
      _ = Event.verdicts [.statusChanged ⟨.pending, after⟩] := rfl
      _ = [after] := verdicts_of_decision decision
      _ = [after].filter (·.status.isTerminal) := by simp [terminal]

end Event

open Event (verdicts)

/-! ## What is on record of consequences -/

namespace Store

/-- The consequences on record follow some decisions, one by one. -/
structure Follows (s : Store) (rs : List Request) : Prop where
  audit : List.Forall₂ AuditEntry.TellsOf s.audit rs
  notifications : List.Forall₂ Notification.TellsOf s.notifications rs
  certified : ∀ userId p, s.profiles.find? userId = some p → p.certified = true
  badges : ∀ userId, (∃ p, s.profiles.find? userId = some p) ↔
    ∃ r ∈ rs, r.status = .approved ∧ r.userId = userId

namespace Follows

variable {s : Store} {rs : List Request}

theorem empty : Store.empty.Follows [] where
  audit := .nil
  notifications := .nil
  certified := by rintro userId p ⟨⟩
  badges userId := by simp [Store.empty]

/-- Deeds have no consequences on record. -/
theorem deed (h : s.Follows rs) (deed : Deed) : (deed.store s).Follows rs := by
  obtain ⟨audit, notifications, certified, badges⟩ := h
  cases deed with
  | nothing | submitted | issued | marked | decided =>
    exact ⟨audit, notifications, certified, badges⟩

/-- Whoever has the badge after a decision had it before or has been approved. -/
theorem badge (h : s.Follows rs) (r : Request) (now : Time.Instant) (userId : String) :
    ((∃ p, (s.badge r now).profiles.find? userId = some p) ↔
      ∃ r' ∈ rs ++ [r], r'.status = .approved ∧ r'.userId = userId) ∧
    ∀ p, (s.badge r now).profiles.find? userId = some p → p.certified = true := by
  have last : (∃ r' ∈ rs ++ [r], r'.status = .approved ∧ r'.userId = userId) ↔
      (∃ p, s.profiles.find? userId = some p) ∨ r.status = .approved ∧ r.userId = userId := by
    rw [h.badges userId]
    simp [or_and_right, exists_or]
  rw [last, Store.badge]
  split
  · next approved =>
    rw [Store.certifyProfile, Table.find?_insert]
    split
    · next same =>
      refine ⟨⟨fun _ => Or.inr ⟨approved, same.symm⟩, fun _ => ⟨_, rfl⟩⟩, ?_⟩
      rintro p ⟨⟩
      rfl
    · next other =>
      refine ⟨(or_iff_left ?_).symm, h.certified userId⟩
      exact fun new => other new.2.symm
  · next rejected =>
    refine ⟨(or_iff_left ?_).symm, h.certified userId⟩
    exact fun new => rejected new.1

/-- What follows from an event follows its decision. -/
theorem settle (h : s.Follows rs) {s' : Store} {e : Event} (settles : e.Settles s s') :
    s'.Follows (rs ++ verdicts [e]) := by
  cases settles with
  | submitted r token =>
    exact (List.append_nil rs).symm ▸ h
  | idle idle =>
    rw [Event.verdicts_of_idle idle, List.append_nil]
    exact h
  | @decided c n e id id' now decision notification entry =>
    rw [Event.verdicts_of_decision decision, Store.badge_insertNotification]
    refine ⟨?_, ?_, ?_, ?_⟩
    · rw [Store.appendAudit, Store.insertNotification, Store.badge_audit]
      exact List.rel_append h.audit (.cons (AuditEntry.tellsOf_forDecision entry) .nil)
    · rw [Store.appendAudit, Store.insertNotification, Store.badge_notifications]
      exact List.rel_append h.notifications
        (.cons (Notification.tellsOf_forDecision notification) .nil)
    · exact fun userId => (h.badge c.after now userId).2
    · exact fun userId => (h.badge c.after now userId).1

/-- The audit entries about a request follow the decisions about it. -/
theorem auditOf (h : s.Follows rs) (id : String) :
    List.Forall₂ AuditEntry.TellsOf (s.auditOf id) (rs.filter (·.id == id)) := by
  refine List.rel_filter ?_ h.audit
  intro e r tells
  dsimp only
  rw [tells.requestId]

/-- The notifications of a user follow the decisions about the requests of that user. -/
theorem notificationsOf (h : s.Follows rs) (userId : String) :
    List.Forall₂ Notification.TellsOf (s.notificationsOf userId) (rs.filter (·.userId == userId)) := by
  refine List.rel_filter ?_ h.notifications
  intro n r tells
  dsimp only
  rw [tells.userId]

end Follows

/-! ## Settled books -/

/-- The request is on record. -/
def Holds (s : Store) (r : Request) : Prop := ∃ id, s.requests.find? id = some r

/-- These are the decided requests on record, each of them once. -/
structure Decisions (s : Store) (rs : List Request) : Prop where
  once : (rs.map (·.id)).Nodup
  all : ∀ r, r ∈ rs ↔ r.status.isTerminal = true ∧ s.Holds r

/-- What is on record of consequences goes with what is on record of decisions. -/
structure Settled (s : Store) : Prop where
  /-- Nothing is said of a request that has not been decided. -/
  undecided : ∀ id, (∀ r, s.requests.find? id = some r → r.status = .pending) → s.auditOf id = []
  /-- A decided request has one entry in the audit log. -/
  decided : ∀ id r, s.requests.find? id = some r → r.status.isTerminal = true →
    ∃ e, s.auditOf id = [e] ∧ e.TellsOf r
  /-- A user has one notification for each decided request. -/
  notified : ∀ userId, ∃ rs, List.Forall₂ Notification.TellsOf (s.notificationsOf userId) rs ∧
    (rs.map (·.id)).Nodup ∧
    ∀ r, r ∈ rs ↔ r.userId = userId ∧ r.status.isTerminal = true ∧ s.Holds r
  /-- Every profile carries the badge. -/
  certified : ∀ userId p, s.profiles.find? userId = some p → p.certified = true
  /-- A user has a profile if one of their requests was approved, and only then. -/
  badges : ∀ userId, (∃ p, s.profiles.find? userId = some p) ↔
    ∃ r, s.Holds r ∧ r.status = .approved ∧ r.userId = userId

variable {s : Store} {rs : List Request}

/-- Decisions that agree with the records request by request are those on record. -/
theorem Decisions.of_records (records : ∀ id, rs.filter (·.id == id) =
    (s.requests.find? id).toList.filter (·.status.isTerminal)) : s.Decisions rs where
  once := by
    rw [List.nodup_iff_count_le_one]
    intro id
    rw [List.count_eq_countP, List.countP_map, List.countP_eq_length_filter]
    calc (rs.filter (·.id == id)).length
      _ = ((s.requests.find? id).toList.filter (·.status.isTerminal)).length := by rw [records id]
      _ ≤ (s.requests.find? id).toList.length := List.length_filter_le ..
      _ ≤ 1 := by cases s.requests.find? id <;> simp
  all r := by
    have member (id : String) : (r ∈ rs ∧ r.id = id) ↔
        s.requests.find? id = some r ∧ r.status.isTerminal = true := by
      have same : r ∈ rs.filter (·.id == id) ↔
          r ∈ (s.requests.find? id).toList.filter (·.status.isTerminal) := by rw [records id]
      simpa using same
    constructor
    · intro listed
      obtain ⟨found, terminal⟩ := (member r.id).1 ⟨listed, rfl⟩
      exact ⟨terminal, r.id, found⟩
    · rintro ⟨terminal, id, found⟩
      exact ((member id).2 ⟨found, terminal⟩).1

/-- The books are settled when consequences follow the decisions on record. -/
theorem Settled.of_follows (follows : s.Follows rs) (records : ∀ id, rs.filter (·.id == id) =
    (s.requests.find? id).toList.filter (·.status.isTerminal)) : s.Settled := by
  have decisions := Decisions.of_records records
  have entries (id : String) : List.Forall₂ AuditEntry.TellsOf (s.auditOf id)
      ((s.requests.find? id).toList.filter (·.status.isTerminal)) :=
    records id ▸ follows.auditOf id
  refine ⟨?_, ?_, ?_, follows.certified, ?_⟩
  · intro id pending
    have none : (s.requests.find? id).toList.filter (·.status.isTerminal) = [] := by
      refine List.filter_eq_nil_iff.2 fun r member => ?_
      rw [pending r (Option.mem_toList.1 member)]
      exact Bool.false_ne_true
    exact List.forall₂_nil_right_iff.1 (none ▸ entries id)
  · intro id r found terminal
    have one : (s.requests.find? id).toList.filter (·.status.isTerminal) = [r] := by
      simp [found, terminal]
    obtain ⟨e, rest, tells, none, split⟩ := List.forall₂_cons_right_iff.1 (one ▸ entries id)
    rw [List.forall₂_nil_right_iff.1 none] at split
    exact ⟨e, split, tells⟩
  · intro userId
    refine ⟨rs.filter (·.userId == userId), follows.notificationsOf userId, ?_, ?_⟩
    · exact decisions.once.sublist (List.filter_sublist.map _)
    · intro r
      rw [List.mem_filter, decisions.all r, beq_iff_eq, and_comm]
  · intro userId
    rw [follows.badges userId]
    constructor
    · rintro ⟨r, listed, approved, own⟩
      exact ⟨r, ((decisions.all r).1 listed).2, approved, own⟩
    · rintro ⟨r, holds, approved, own⟩
      exact ⟨r, (decisions.all r).2 ⟨by rw [approved]; rfl, holds⟩, approved, own⟩

end Store

/-! ## Shifts -/

/-- A call to the workflow, or a turn of the dispatcher during which the store stays up. -/
def Job.Undisturbed : Job → Prop
  | .call c _ => c.isService = true
  | .dispatch sky => ∀ n, (sky n).storeUp = true

namespace Shift

variable {x y : Shift}

/-- An undisturbed job keeps the consequences in step with the decisions that were handled. -/
theorem follows_job {j : Job} (outcome : x.JobOutcome j y) (undisturbed : j.Undisturbed)
    (h : x.store.Follows (verdicts x.handled)) : y.store.Follows (verdicts y.handled) := by
  cases outcome with
  | served service explains store =>
    rw [Shift.store, store]
    exact h.deed _
  | told => cases undisturbed
  | idle => exact h
  | dispatched queue aftermath settles =>
    rw [Event.verdicts_append]
    exact h.settle (settles undisturbed)

/-- **Every decision is settled once.** Whenever the queue is empty in a shift of undisturbed jobs that
began with a fresh desk, every decision on record has had its consequences, each of them once. -/
theorem decisions_are_settled (s : Settings) (w : World) (js : List Job)
    (undisturbed : ∀ j ∈ js, j.Undisturbed)
    (idle : ((opening w.fresh).jobs s js).world.queue = []) :
    ((opening w.fresh).jobs s js).store.Settled := by
  have mirrored : Mirrored ((opening w.fresh).jobs s js) :=
    jobs_keep Mirrored (fun x j _ h => h.job s j) (.opening w)
  have follows : ((opening w.fresh).jobs s js).store.Follows
      (verdicts ((opening w.fresh).jobs s js).handled) :=
    jobs_keep (fun x => x.store.Follows (verdicts x.handled))
      (fun x j member h => follows_job (x.job_outcome s j) (undisturbed j member) h) .empty
  generalize (opening w.fresh).jobs s js = x at mirrored follows idle
  have announced : x.announced = x.handled := by
    rw [Shift.announced, idle, List.append_nil]
  refine .of_follows follows fun id => ?_
  rw [← Event.verdicts_about, ← announced]
  exact (mirrored.chronicle id).verdicts

/-- Ann submits a request and Bob approves it in the panel. Both events are handled, but no letter about
the approval arrives. -/
def approval : List Job :=
  let undeliverable : Sky := fun n => { Sky.fair n with relay := fun _ => .error .unreachable }
  [.call (.submit ⟨"u1", "Ann", "ann@example.org", none, none⟩) .fair,
    .dispatch .fair,
    .call (.processViaPanel "00000000-0000-0000-0000-000000000000" .approve "Bob") .fair,
    .dispatch undeliverable]

/-- At the end Ann has the badge, and the log has one entry, which names Bob. -/
theorem approval_is_settled :
    let x := (opening (World.quiet .empty ⟨0, 0⟩).fresh).jobs ⟨"", "", 5000, "", none⟩ approval
    x.world.queue = [] ∧ x.store.Settled ∧ (∃ p, x.store.profiles.find? "u1" = some p) ∧
      ∃ e, x.store.auditOf "00000000-0000-0000-0000-000000000000" = [e] ∧
        e.performedBy = some "Bob" := by
  have undisturbed : ∀ j ∈ approval, j.Undisturbed := by
    simp [approval, Job.Undisturbed, Call.isService, Sky.fair]
  have settled := decisions_are_settled ⟨"", "", 5000, "", none⟩ (World.quiet .empty ⟨0, 0⟩) approval
    undisturbed rfl
  obtain ⟨e, one, tells⟩ := settled.decided "00000000-0000-0000-0000-000000000000" _ rfl rfl
  have badge := (settled.badges "u1").2
    ⟨_, ⟨"00000000-0000-0000-0000-000000000000", rfl⟩, rfl, rfl⟩
  exact ⟨rfl, settled, badge, e, one, tells.performedBy⟩

end Shift

end ApprovalDesk
