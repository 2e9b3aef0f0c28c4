import Mathlib.Logic.Relation
import ApprovalDesk.Proofs.Dispatch.Steps
import ApprovalDesk.Proofs.Weather.Scene

/-!
# What follows from an event

Handling an event puts nothing on record but notifications, badges and audit entries
(`Store.Aftermath`), however the store goes down meanwhile. If the store stays up, what is put on record
is settled by the event (`Event.Settles`): a decision leads to one notification, one audit entry and,
for an approval, the badge; nothing else leads to anything. Whether the letters arrive makes no
difference.
-/

namespace ApprovalDesk

set_option autoImplicit false

open ApprovalDesk.Time ApprovalDesk.Dialogue

namespace Store

/-- A store that differs from another by what was put on record as a consequence of events. -/
def Aftermath : Store → Store → Prop :=
  Relation.ReflTransGen fun s s' => ∃ call : StoreCall, call.isConsequence = true ∧ s' = s.after call

/-- What every consequence keeps, any number of them keeps. -/
theorem Aftermath.keeps (Kept : Store → Prop) {s s' : Store} (h : Aftermath s s')
    (step : ∀ t call, StoreCall.isConsequence call = true → Kept t → Kept (t.after call))
    (start : Kept s) : Kept s' := by
  induction h with
  | refl => exact start
  | tail _ last ih =>
    obtain ⟨call, consequence, rfl⟩ := last
    exact step _ call consequence ih

/-- Consequences leave requests and tokens alone. -/
theorem Aftermath.records {s s' : Store} (h : Aftermath s s') :
    s'.requests = s.requests ∧ s'.tokens = s.tokens :=
  h.keeps (fun t => t.requests = s.requests ∧ t.tokens = s.tokens)
    (fun t _ consequence same =>
      ⟨(t.records_after consequence).1.trans same.1, (t.records_after consequence).2.trans same.2⟩)
    ⟨rfl, rfl⟩

/-- The badge that follows from an approval. -/
def badge (s : Store) (r : Request) (now : Instant) : Store :=
  if r.status = .approved then s.certifyProfile r.userId now else s

section Badge

variable (s : Store) (r : Request) (now : Instant)

@[simp] theorem badge_audit : (s.badge r now).audit = s.audit := by
  unfold badge
  split <;> rfl

@[simp] theorem badge_notifications : (s.badge r now).notifications = s.notifications := by
  unfold badge
  split <;> rfl

/-- The badge does not depend on the notifications. -/
theorem badge_insertNotification (n : Notification) :
    (s.insertNotification n).badge r now = (s.badge r now).insertNotification n := by
  unfold badge
  split <;> rfl

end Badge

end Store

/-- What handling an event makes of a store that stays up. -/
inductive Event.Settles : Event → Store → Store → Prop where
  | submitted (r : Request) (token : String) (s : Store) : Settles (.submitted r token) s s
  | idle {c : StatusChange} (idle : c.isDecision = false) (s : Store) :
      Settles (.statusChanged c) s s
  | decided {c : StatusChange} {n : Notification} {e : AuditEntry} {id id' : Uuid} {now : Instant}
      (decision : c.isDecision = true)
      (notification : Notification.forDecision c.after id now = some n)
      (entry : AuditEntry.forDecision c.after id' now = some e) (s : Store) :
      Settles (.statusChanged c) s
        (((s.insertNotification n).badge c.after now).appendAudit e)

theorem Request.isPending_of_terminal {r : Request} (terminal : r.status.isTerminal = true) :
    r.isPending = false := by
  unfold isPending
  cases status : r.status with
  | pending =>
    rw [status] at terminal
    cases terminal
  | approved | rejected => rfl

theorem StatusChange.terminal_of_isDecision {c : StatusChange} (decision : c.isDecision = true) :
    c.after.status.isTerminal = true := by
  unfold isDecision at decision
  exact (Bool.and_eq_true _ _ ▸ decision).2

/-- Every decided request has its notification. -/
theorem Notification.exists_forDecision {r : Request} (terminal : r.status.isTerminal = true)
    (id : Uuid) (now : Instant) : ∃ n, forDecision r id now = some n := by
  unfold forDecision
  cases status : r.status with
  | pending =>
    rw [status] at terminal
    cases terminal
  | approved | rejected => exact ⟨_, rfl⟩

/-- Every decided request has its audit entry. -/
theorem AuditEntry.exists_forDecision {r : Request} (terminal : r.status.isTerminal = true)
    (id : Uuid) (now : Instant) : ∃ e, forDecision r id now = some e := by
  unfold forDecision
  cases status : r.status with
  | pending =>
    rw [status] at terminal
    cases terminal
  | approved | rejected => exact ⟨_, rfl⟩

namespace Scene

variable {α β : Type} {x : Scene} {s s' : Store}

/-! ## In any weather -/

theorem aftermath_answer (q : Step) (w : World) (followsUp : q.followsUp = true) :
    Store.Aftermath w.store (w.answer q).2.store := by
  cases q with
  | store call =>
    rw [World.answer, w.answerStore_visit call]
    change Store.Aftermath w.store (if w.up call then w.store.after call else w.store)
    split
    · exact .single ⟨call, followsUp, rfl⟩
    · exact .refl
  | readClock | drawId => exact .refl
  | deliver l =>
    rw [World.answer]
    split <;> exact .refl
  | drawSecret | publish => cases followsUp

/-- Handling an event puts only consequences on record. -/
theorem aftermath_handle (settings : Settings) (e : Event) (x : Scene) :
    Store.Aftermath x.world.store (x.run (Dispatch.handle settings e)).2.world.store :=
  run_keeps (fun w w' => Store.Aftermath w.store w'.store) (fun _ => .refl) (fun h k => h.trans k)
    (fun _ _ => .refl) aftermath_answer (Dispatch.handle_asks settings e) x

/-- Handling an event announces nothing. -/
theorem queue_handle (settings : Settings) (e : Event) (x : Scene) :
    (x.run (Dispatch.handle settings e)).2.world.queue = x.world.queue :=
  queue_of_quiet ((Dispatch.handle_asks settings e).mono fun _ => Step.quiet_of_followsUp) x

/-! ## While the store is up -/

/-- The store stays up. -/
def Calm (x : Scene) : Prop := ∀ n, (x.sky n).storeUp = true

theorem calm_answer (calm : x.Calm) (q : Step) : (x.answer q).2.Calm := fun n => calm (n + 1)

/-- A run comes to an end, leaves a store behind, and the store is still up. -/
def Leaves (x : Scene) (f : Flow α) (s : Store) : Prop :=
  ∃ a x', x.run f = (.ok a, x') ∧ x'.world.store = s ∧ x'.Calm

theorem leaves_done (calm : x.Calm) (a : α) : x.Leaves (.done a : Flow α) x.world.store :=
  ⟨a, x, rfl, rfl, calm⟩

theorem Leaves.bind {f : Flow α} {g : α → Flow β} (first : x.Leaves f s)
    (second : ∀ a x', x'.world.store = s → Calm x' → x'.Leaves (g a) s') :
    x.Leaves (f >>= g) s' := by
  obtain ⟨a, x', run, store, calm⟩ := first
  obtain ⟨b, x'', rest, last⟩ := second a x' store calm
  exact ⟨b, x'', (run_bind_ok run).trans rest, last⟩

theorem leaves_readClock (calm : x.Calm) : x.Leaves Flow.now x.world.store :=
  ⟨_, _, rfl, rfl, calm_answer calm .readClock⟩

theorem leaves_drawId (calm : x.Calm) : x.Leaves Flow.newId x.world.store :=
  ⟨_, _, rfl, rfl, calm_answer calm .drawId⟩

theorem leaves_store {call : StoreCall} {reply : Except StoreError call.Result} (calm : x.Calm)
    (answered : x.world.store.answer call = .ok (reply, s)) : x.Leaves (Flow.store call) s := by
  refine ⟨reply, x.stored s, ?_, rfl, fun n => calm (n + 1)⟩
  rw [Flow.store, run_ask, answer_store_up (calm 0) answered]
  rfl

theorem leaves_deliver (calm : x.Calm) (l : Letter) : x.Leaves (Flow.deliver l) x.world.store := by
  obtain ⟨reply, x', answered, kept⟩ : ∃ reply x', x.answer (.deliver l) = (.ok reply, x') ∧
      x'.world.store = x.world.store := by
    unfold answer
    rw [World.answer]
    split <;> exact ⟨_, _, rfl, rfl⟩
  have calm' := calm_answer calm (.deliver l)
  rw [answered] at calm'
  refine ⟨reply, x', ?_, kept, calm'⟩
  rw [Flow.deliver, run_ask, answered]
  rfl

section Handle

open ApprovalDesk.Dispatch

variable {r : Request}

/-- A record is made under a new identifier, and then it is filed. -/
theorem leaves_filed {ρ : Type} {make : Uuid → Option ρ} {file : Uuid → Flow StepOutcome}
    (put : Store → ρ → Store) (calm : x.Calm) (makes : ∀ id, ∃ record, make id = some record)
    (files : ∀ id record x', make id = some record → Calm x' →
      x'.Leaves (file id) (put x'.world.store record)) :
    ∃ id record, make id = some record ∧
      x.Leaves (Flow.newId >>= file) (put x.world.store record) := by
  obtain ⟨id, x', run, store, calm'⟩ := leaves_drawId calm
  obtain ⟨record, made⟩ := makes id
  obtain ⟨outcome, x'', filed, last⟩ := files id record x' made calm'
  exact ⟨id, record, made, outcome, x'', (run_bind_ok run).trans filed, store ▸ last⟩

theorem leaves_notify (calm : x.Calm) (terminal : r.status.isTerminal = true) (now : Instant) :
    ∃ id n, Notification.forDecision r id now = some n ∧
      x.Leaves (notify r now) (x.world.store.insertNotification n) := by
  unfold notify
  rw [Request.isPending_of_terminal terminal, if_neg Bool.false_ne_true]
  refine leaves_filed Store.insertNotification calm
    (Notification.exists_forDecision terminal · now) fun id n x' notification calm' => ?_
  rw [notification]
  exact (leaves_store calm' rfl).bind fun reply x'' store calm'' => store ▸ leaves_done calm'' _

theorem leaves_certify (calm : x.Calm) (r : Request) (now : Instant) :
    x.Leaves (certify r now) (x.world.store.badge r now) := by
  unfold certify Store.badge
  split
  · exact (leaves_store calm rfl).bind fun reply x' store calm' => store ▸ leaves_done calm' _
  · exact leaves_done calm _

theorem leaves_send (calm : x.Calm) (letter : Int → Except MailError (Option Letter)) :
    x.Leaves (send letter) x.world.store := by
  unfold send
  refine (leaves_readClock calm).bind fun now x' store calm' => ?_
  rw [← store]
  rcases letter now.year with e | _ | l
  · exact leaves_done calm' _
  · exact leaves_done calm' _
  · exact (leaves_deliver calm' l).bind fun reply x'' last calm'' => last ▸ leaves_done calm'' _

theorem leaves_log (calm : x.Calm) (terminal : r.status.isTerminal = true) (now : Instant) :
    ∃ id e, AuditEntry.forDecision r id now = some e ∧
      x.Leaves (log r now) (x.world.store.appendAudit e) := by
  unfold log
  rw [Request.isPending_of_terminal terminal, if_neg Bool.false_ne_true]
  refine leaves_filed Store.appendAudit calm (AuditEntry.exists_forDecision terminal · now)
    fun id e x' entry calm' => ?_
  rw [entry]
  exact (leaves_store calm' rfl).bind fun reply x'' store calm'' => store ▸ leaves_done calm'' _

end Handle

/-- **What an event leads to is settled by the event** as long as the store is up. -/
theorem settles_handle (settings : Settings) (e : Event) (calm : x.Calm) :
    e.Settles x.world.store (x.run (Dispatch.handle settings e)).2.world.store := by
  have ends {f : Flow Dispatch.Report} {s : Store} (leaves : x.Leaves f s) :
      (x.run f).2.world.store = s := by
    obtain ⟨a, x', run, store, -⟩ := leaves
    rw [run, store]
  cases e with
  | submitted r token =>
    have leaves : x.Leaves (Dispatch.onSubmitted settings r token) x.world.store :=
      (leaves_send calm _).bind fun outcome x' store calm' => store ▸ leaves_done calm' _
    rw [Dispatch.handle, ends leaves]
    exact .submitted r token _
  | statusChanged c =>
    cases decision : c.isDecision with
    | false =>
      have leaves : x.Leaves (Dispatch.onStatusChange settings c) x.world.store := by
        unfold Dispatch.onStatusChange
        rw [decision]
        exact leaves_done calm _
      rw [Dispatch.handle, ends leaves]
      exact .idle decision _
    | true =>
      have terminal := StatusChange.terminal_of_isDecision decision
      obtain ⟨now, x₁, readClock, store₁, calm₁⟩ := leaves_readClock calm
      obtain ⟨id, n, notification, _, x₂, notify, store₂, calm₂⟩ :=
        leaves_notify calm₁ terminal now
      obtain ⟨_, x₃, certify, store₃, calm₃⟩ := leaves_certify calm₂ c.after now
      obtain ⟨_, x₄, sendUser, store₄, calm₄⟩ := leaves_send calm₃ fun year =>
        .ok (Letter.userDecision settings c.after year)
      obtain ⟨_, x₅, sendAdmin, store₅, calm₅⟩ := leaves_send calm₄ fun year =>
        .ok (Letter.adminConfirmation settings c.after year)
      obtain ⟨id', e, entry, _, x₆, log, store₆, -⟩ := leaves_log calm₅ terminal now
      have run : (x.run (Dispatch.onStatusChange settings c)).2 = x₆ := by
        unfold Dispatch.onStatusChange
        rw [decision]
        simp only [Bool.not_true, Bool.false_eq_true, if_false]
        rw [run_bind_ok readClock, run_bind_ok notify, run_bind_ok certify, run_bind_ok sendUser,
          run_bind_ok sendAdmin, run_bind_ok log]
        rfl
      rw [Dispatch.handle, run, store₆, store₅, store₄, store₃, store₂, store₁]
      exact .decided decision notification entry _

end Scene

end ApprovalDesk
