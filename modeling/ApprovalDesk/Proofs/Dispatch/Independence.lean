import ApprovalDesk.Proofs.Dispatch.Consequences

/-!
# The parts of a decision's aftermath

A decision is followed up in five parts: the notification, the badge, the two letters and the audit
entry. Each part makes one call of its own, at a step that is settled by the decision alone
(`Part.callAt`), and what it puts on record or sends is settled before the first of them is made
(`Effects.FollowFrom`). So whichever calls fail, the others have the effects that they would have had,
and the report tells which they are (`parts_are_independent`).
-/

namespace ApprovalDesk

set_option autoImplicit false

open ApprovalDesk.Dialogue ApprovalDesk.Time

namespace Dispatch

/-- The parts of what follows from a decision. -/
inductive Part where
  | notification
  | profileFlag
  | userEmail
  | adminEmail
  | auditEntry
  deriving DecidableEq, Repr

/-- What a report says about a part. -/
def Report.of (report : Report) : Part → StepOutcome
  | .notification => report.notification
  | .profileFlag => report.profileFlag
  | .userEmail => report.userEmail
  | .adminEmail => report.adminEmail
  | .auditEntry => report.auditEntry

namespace Part

/-- The part is attempted; the badge is given for an approval only. -/
def isDue (r : Request) : Part → Bool
  | .profileFlag => r.status == .approved
  | .notification | .userEmail | .adminEmail | .auditEntry => true

/-- The steps that the badge takes. -/
def badgeSteps (r : Request) : Nat := if r.status = .approved then 1 else 0

/-- The step at which a part makes its own call. The clock is read at the first step and right before
each letter, and an identifier is drawn before each of the two records. -/
def callAt (r : Request) : Part → Nat
  | .notification => 2
  | .profileFlag => 3
  | .userEmail => 4 + badgeSteps r
  | .adminEmail => 6 + badgeSteps r
  | .auditEntry => 8 + badgeSteps r

end Part

/-- What the parts lead to, each if its own call succeeds. -/
structure Effects where
  notification : Notification
  badgeFor : String
  badgeAt : Instant
  userLetter : Letter
  adminLetter : Letter
  auditEntry : AuditEntry

namespace Effects

/-- The effects of a decision that is followed up in a world while the clock goes as given. -/
structure FollowFrom (fx : Effects) (s : Settings) (r : Request) (w : World) (clock : Nat → Instant) :
    Prop where
  notification : Notification.forDecision r (w.ids w.idsDrawn) (clock 0) = some fx.notification
  badgeFor : fx.badgeFor = r.userId
  badgeAt : fx.badgeAt = clock 0
  userLetter : Letter.userDecision s r (clock (3 + Part.badgeSteps r)).year = some fx.userLetter
  adminLetter : Letter.adminConfirmation s r (clock (5 + Part.badgeSteps r)).year = some fx.adminLetter
  auditEntry : AuditEntry.forDecision r (w.ids (w.idsDrawn + 1)) (clock 0) = some fx.auditEntry

/-- The own call of a part succeeds in the weather. -/
def succeeds (fx : Effects) (y : Weather) : Part → Bool
  | .notification | .profileFlag | .auditEntry => y.storeUp
  | .userEmail => (y.relay fx.userLetter).isOk
  | .adminEmail => (y.relay fx.adminLetter).isOk

/-- The part is attempted under the sky, and its own call succeeds. -/
def takesPlace (fx : Effects) (r : Request) (sky : Sky) (p : Part) : Bool :=
  p.isDue r && fx.succeeds (sky (p.callAt r)) p

/-- The store with the effects of those parts that took place. -/
def filed (fx : Effects) (placed : Part → Bool) (s : Store) : Store :=
  { s with
    notifications := s.notifications ++ if placed .notification then [fx.notification] else []
    profiles :=
      if placed .profileFlag then (s.certifyProfile fx.badgeFor fx.badgeAt).profiles else s.profiles
    audit := s.audit ++ if placed .auditEntry then [fx.auditEntry] else [] }

/-- The letters of those parts that took place. -/
def delivered (fx : Effects) (placed : Part → Bool) : List Letter :=
  (if placed .userEmail then [fx.userLetter] else []) ++
    if placed .adminEmail then [fx.adminLetter] else []

/-- The effects of the parts, put on record one after the other. -/
theorem filed_eq (fx : Effects) (placed : Part → Bool) (s : Store) :
    fx.filed placed s =
      let noted := if placed .notification then s.insertNotification fx.notification else s
      let badged := if placed .profileFlag then noted.certifyProfile fx.badgeFor fx.badgeAt else noted
      if placed .auditEntry then badged.appendAudit fx.auditEntry else badged := by
  unfold filed
  cases placed .notification <;> cases placed .profileFlag <;> cases placed .auditEntry <;>
    simp [Store.insertNotification, Store.certifyProfile, Store.appendAudit]

/-- The effects of a decision are settled. -/
theorem exists_followFrom {r : Request} (terminal : r.status.isTerminal = true) (s : Settings)
    (w : World) (clock : Nat → Instant) : ∃ fx : Effects, fx.FollowFrom s r w clock := by
  have decided : r.isPending = false := Request.isPending_of_terminal terminal
  obtain ⟨n, notification⟩ := Notification.exists_forDecision terminal (w.ids w.idsDrawn) (clock 0)
  obtain ⟨e, entry⟩ := AuditEntry.exists_forDecision terminal (w.ids (w.idsDrawn + 1)) (clock 0)
  obtain ⟨l, userLetter⟩ : ∃ l,
      Letter.userDecision s r (clock (3 + Part.badgeSteps r)).year = some l := by
    rw [Letter.userDecision, decided]
    exact ⟨_, rfl⟩
  obtain ⟨m, adminLetter⟩ : ∃ m,
      Letter.adminConfirmation s r (clock (5 + Part.badgeSteps r)).year = some m := by
    rw [Letter.adminConfirmation, decided]
    exact ⟨_, rfl⟩
  exact ⟨⟨n, r.userId, clock 0, l, m, e⟩, notification, rfl, rfl, userLetter, adminLetter, entry⟩

end Effects

/-- The outcome of a part that was attempted. -/
def tried (success : Bool) : StepOutcome := if success then .done else .failed

/-- Without an approval the badge is not attempted. -/
theorem onStatusChange_gives_no_badge (s : Settings) {c : StatusChange}
    (other : c.after.status ≠ .approved) :
    (onStatusChange s c).AsksOnly fun q => q.givesBadge = false :=
  (onStatusChange_safe (fun _ _ noBadge => noBadge) s c fun approved => absurd approved other).asksOnly

end Dispatch

namespace Scene

open ApprovalDesk.Dispatch

/-! ## Parts under a sky -/

/-- Some steps lead from one scene to another. They leave a store behind, some identifiers have been
drawn, some letters delivered, and nothing announced. -/
structure Leads (x : Scene) (steps drawn : Nat) (store : Store) (letters : List Letter) (x' : Scene) :
    Prop where
  sky : ∀ n, x'.sky n = x.sky (steps + n)
  store : x'.world.store = store
  outbox : x'.world.outbox = x.world.outbox ++ letters
  queue : x'.world.queue = x.world.queue
  ids : x'.world.ids = x.world.ids
  idsDrawn : x'.world.idsDrawn = x.world.idsDrawn + drawn

variable {α β : Type} {x x' x'' : Scene} {s s' : Store} {steps steps' drawn drawn' : Nat}
  {letters letters' : List Letter}

theorem Leads.refl (x : Scene) : x.Leads 0 0 x.world.store [] x where
  sky n := by rw [Nat.zero_add]
  store := rfl
  outbox := (List.append_nil _).symm
  queue := rfl
  ids := rfl
  idsDrawn := rfl

theorem Leads.trans (h : x.Leads steps drawn s letters x') (k : x'.Leads steps' drawn' s' letters' x'') :
    x.Leads (steps + steps') (drawn + drawn') s' (letters ++ letters') x'' where
  sky n := by rw [k.sky, h.sky, Nat.add_assoc]
  store := k.store
  outbox := by rw [k.outbox, h.outbox, List.append_assoc]
  queue := k.queue.trans h.queue
  ids := k.ids.trans h.ids
  idsDrawn := by rw [k.idsDrawn, h.idsDrawn, Nat.add_assoc]

/-- The weather at a step, counted from the first scene. -/
theorem Leads.sky_eq (h : x.Leads steps drawn s letters x') {n m : Nat} (later : steps + n = m) :
    x'.sky n = x.sky m := by
  rw [h.sky, later]

theorem leads_readClock (x : Scene) :
    ∃ x', x.run Flow.now = (.ok (x.sky 0).now, x') ∧ x.Leads 1 0 x.world.store [] x' := by
  refine ⟨_, rfl, ?_, rfl, (List.append_nil _).symm, rfl, rfl, rfl⟩
  intro n
  rw [Nat.add_comm]

theorem leads_drawId (x : Scene) :
    ∃ x', x.run Flow.newId = (.ok (x.world.ids x.world.idsDrawn), x') ∧
      x.Leads 1 1 x.world.store [] x' := by
  refine ⟨_, rfl, ?_, rfl, (List.append_nil _).symm, rfl, rfl, rfl⟩
  intro n
  rw [Nat.add_comm]

section Store

variable {call : StoreCall} {reply : Except StoreError call.Result}
  (answered : x.world.store.answer call = .ok (reply, s))
  (told : Except StoreError call.Result → StepOutcome)
  (succeeded : told reply = .done) (failed : told (.error .unavailable) = .failed)

include answered succeeded failed

/-- A part that makes a call to the store succeeds if the store is up, and changes nothing else. -/
theorem leads_store :
    ∃ x', x.run (Flow.store call >>= fun reply => .done (told reply)) =
        (.ok (tried (x.sky 0).storeUp), x') ∧
      x.Leads 1 0 (if (x.sky 0).storeUp then s else x.world.store) [] x' := by
  have arrives (t : Store) : x.Leads 1 0 t [] (x.stored t) := by
    refine ⟨?_, rfl, (List.append_nil _).symm, rfl, rfl, rfl⟩
    intro n
    rw [Nat.add_comm]
    rfl
  unfold Flow.store
  rw [ask_bind, run_ask]
  cases up : (x.sky 0).storeUp with
  | false =>
    rw [answer_store_down up]
    refine ⟨_, ?_, arrives x.world.store⟩
    show (Except.ok (told (.error .unavailable)), _) = _
    rw [failed]
    rfl
  | true =>
    rw [answer_store_up up answered]
    refine ⟨_, ?_, arrives s⟩
    show (Except.ok (told reply), _) = _
    rw [succeeded]
    rfl

/-- A record is made under a new identifier, and one call files it. -/
theorem leads_record {file : Uuid → Flow StepOutcome}
    (files : file (x.world.ids x.world.idsDrawn) =
      Flow.store call >>= fun reply => .done (told reply)) :
    ∃ x', x.run (Flow.newId >>= file) = (.ok (tried (x.sky 1).storeUp), x') ∧
      x.Leads 2 1 (if (x.sky 1).storeUp then s else x.world.store) [] x' := by
  obtain ⟨x₁, drawn, first⟩ := x.leads_drawId
  rw [← first.store] at answered
  obtain ⟨x₂, filed, second⟩ := leads_store answered told succeeded failed
  have both := first.trans second
  rw [first.sky, first.store] at both
  rw [first.sky] at filed
  rw [run_bind_ok drawn, files]
  exact ⟨x₂, filed, both⟩

end Store

/-- A letter is in the outbox if the relay took it. -/
theorem leads_deliver (x : Scene) (l : Letter) :
    ∃ x', x.run (Flow.deliver l >>= fun reply => .done (outcome reply)) =
        (.ok (tried ((x.sky 0).relay l).isOk), x') ∧
      x.Leads 1 0 x.world.store (if ((x.sky 0).relay l).isOk then [l] else []) x' := by
  have sky : ∀ n, x.sky (n + 1) = x.sky (1 + n) := by
    intro n
    rw [Nat.add_comm]
  have relay : (x.world.under (x.sky 0)).relay l = (x.sky 0).relay l := rfl
  unfold Flow.deliver
  rw [ask_bind, run_ask, answer, World.answer, relay]
  cases (x.sky 0).relay l with
  | error e => exact ⟨_, rfl, sky, rfl, (List.append_nil _).symm, rfl, rfl, rfl⟩
  | ok u => exact ⟨_, rfl, sky, rfl, rfl, rfl, rfl, rfl⟩

variable {r : Request} {now : Instant}

theorem leads_notify {n : Notification} (terminal : r.status.isTerminal = true)
    (made : Notification.forDecision r (x.world.ids x.world.idsDrawn) now = some n) :
    ∃ x', x.run (notify r now) = (.ok (tried (x.sky 1).storeUp), x') ∧
      x.Leads 2 1 (if (x.sky 1).storeUp then x.world.store.insertNotification n else x.world.store) []
        x' := by
  unfold notify
  rw [Request.isPending_of_terminal terminal, if_neg Bool.false_ne_true]
  have answered : x.world.store.answer (.insertNotification n) =
      .ok (.ok (), x.world.store.insertNotification n) := rfl
  refine leads_record answered outcome rfl rfl ?_
  rw [made]
  rfl

theorem leads_log {e : AuditEntry} (terminal : r.status.isTerminal = true)
    (made : AuditEntry.forDecision r (x.world.ids x.world.idsDrawn) now = some e) :
    ∃ x', x.run (log r now) = (.ok (tried (x.sky 1).storeUp), x') ∧
      x.Leads 2 1 (if (x.sky 1).storeUp then x.world.store.appendAudit e else x.world.store) [] x' := by
  unfold log
  rw [Request.isPending_of_terminal terminal, if_neg Bool.false_ne_true]
  have answered : x.world.store.answer (.appendAudit e) =
      .ok (.ok (), x.world.store.appendAudit e) := rfl
  refine leads_record answered outcome rfl rfl ?_
  rw [made]
  rfl

/-- The badge takes a step for an approval, and none for a rejection. -/
theorem leads_certify (x : Scene) (r : Request) (now : Instant) :
    ∃ x', x.run (certify r now) =
        (.ok (if r.status = .approved then tried (x.sky 0).storeUp else .skipped), x') ∧
      x.Leads (Part.badgeSteps r) 0
        (if r.status = .approved ∧ (x.sky 0).storeUp = true then
          x.world.store.certifyProfile r.userId now
        else x.world.store) [] x' := by
  unfold certify Part.badgeSteps
  by_cases approved : r.status = .approved
  · simp only [approved, if_true, true_and]
    have answered : x.world.store.answer (.certifyProfile r.userId now) =
        .ok (.ok (), x.world.store.certifyProfile r.userId now) := rfl
    exact leads_store answered outcome rfl rfl
  · simp only [approved, if_false, false_and]
    exact ⟨x, rfl, .refl x⟩

/-- A letter says the year in which it is sent. -/
theorem leads_send (letter : Int → Option Letter) {l : Letter}
    (written : letter (x.sky 0).now.year = some l) :
    ∃ x', x.run (send fun year => .ok (letter year)) = (.ok (tried ((x.sky 1).relay l).isOk), x') ∧
      x.Leads 2 0 x.world.store (if ((x.sky 1).relay l).isOk then [l] else []) x' := by
  obtain ⟨x₁, readClock, first⟩ := x.leads_readClock
  obtain ⟨x₂, sent, second⟩ := x₁.leads_deliver l
  have both := first.trans second
  rw [first.sky, first.store] at both
  rw [first.sky] at sent
  unfold send
  rw [run_bind_ok readClock]
  dsimp only
  rw [written]
  exact ⟨x₂, sent, both⟩

end Scene

namespace Dispatch

/-- What comes of the follow-up of a decision about `r` in the world `w` under a sky: a report, and the
world `w'`. -/
structure Effects.Account (fx : Effects) (r : Request) (w : World) (sky : Sky) (report : Report)
    (w' : World) : Prop where
  store : w'.store = fx.filed (fx.takesPlace r sky) w.store
  outbox : w'.outbox = w.outbox ++ fx.delivered (fx.takesPlace r sky)
  queue : w'.queue = w.queue
  done : ∀ p, report.of p = .done ↔ fx.takesPlace r sky p = true
  failed : ∀ p, report.of p = .failed ↔
    p.isDue r = true ∧ fx.succeeds (sky (p.callAt r)) p = false
  skipped : ∀ p, report.of p = .skipped ↔ p = .profileFlag ∧ r.status = .rejected

/-- What becomes of a part, by whether it is attempted and whether its own call succeeds. -/
def Effects.outcomeOf (fx : Effects) (r : Request) (sky : Sky) (p : Part) : StepOutcome :=
  if p.isDue r then tried (fx.succeeds (sky (p.callAt r)) p) else .skipped

/-- The report on all parts. -/
def Effects.report (fx : Effects) (r : Request) (sky : Sky) : Report where
  notification := fx.outcomeOf r sky .notification
  profileFlag := fx.outcomeOf r sky .profileFlag
  userEmail := fx.outcomeOf r sky .userEmail
  adminEmail := fx.outcomeOf r sky .adminEmail
  auditEntry := fx.outcomeOf r sky .auditEntry

theorem Effects.report_of (fx : Effects) (r : Request) (sky : Sky) (p : Part) :
    (fx.report r sky).of p = fx.outcomeOf r sky p := by
  cases p <;> rfl

theorem Part.isDue_eq_false_iff {r : Request} (terminal : r.status.isTerminal = true) (p : Part) :
    p.isDue r = false ↔ p = .profileFlag ∧ r.status = .rejected := by
  unfold isDue
  cases status : r.status with
  | pending =>
    rw [status] at terminal
    cases terminal
  | approved | rejected => cases p <;> decide

/-- A world with the effects of the parts is what the report on them says. -/
theorem Effects.account {fx : Effects} {r : Request} {sky : Sky} {w w' : World}
    (terminal : r.status.isTerminal = true)
    (store : w'.store = fx.filed (fx.takesPlace r sky) w.store)
    (outbox : w'.outbox = w.outbox ++ fx.delivered (fx.takesPlace r sky))
    (queue : w'.queue = w.queue) : fx.Account r w sky (fx.report r sky) w' := by
  refine ⟨store, outbox, queue, ?done, ?failed, ?skipped⟩
  case done =>
    intro p
    rw [report_of, outcomeOf, takesPlace]
    cases p.isDue r <;> cases fx.succeeds (sky (p.callAt r)) p <;> decide
  case failed =>
    intro p
    rw [report_of, outcomeOf]
    cases p.isDue r <;> cases fx.succeeds (sky (p.callAt r)) p <;> decide
  case skipped =>
    intro p
    rw [← Part.isDue_eq_false_iff terminal, report_of, outcomeOf]
    cases p.isDue r <;> cases fx.succeeds (sky (p.callAt r)) p <;> decide

/-- The follow-up of a decision, part by part. -/
theorem Effects.run_followUp {fx : Effects} {s : Settings} {c : StatusChange} {w : World}
    {clock : Nat → Instant} {sky : Sky} (decision : c.isDecision = true)
    (follow : fx.FollowFrom s c.after w clock) (timed : ∀ n, (sky n).now = clock n) :
    ∃ x', (Scene.mk w sky).run (onStatusChange s c) = (.ok (fx.report c.after sky), x') ∧
      fx.Account c.after w sky (fx.report c.after sky) x'.world := by
  have terminal := StatusChange.terminal_of_isDecision decision
  -- The scenes between the parts, each with the steps that have led there from the first.
  obtain ⟨x₁, readClock, first⟩ := (Scene.mk w sky).leads_readClock
  have notification : Notification.forDecision c.after (x₁.world.ids x₁.world.idsDrawn) (clock 0) =
      some fx.notification := by
    rw [first.ids, first.idsDrawn]
    exact follow.notification
  obtain ⟨x₂, notify, second⟩ := Scene.leads_notify terminal notification
  have noted := first.trans second
  obtain ⟨x₃, certify, third⟩ := x₂.leads_certify c.after (clock 0)
  have badged := noted.trans third
  have userLetter : Letter.userDecision s c.after (x₃.sky 0).now.year = some fx.userLetter := by
    rw [badged.sky, timed]
    exact follow.userLetter
  obtain ⟨x₄, sendUser, fourth⟩ := Scene.leads_send (Letter.userDecision s c.after) userLetter
  have userTold := badged.trans fourth
  have adminLetter : Letter.adminConfirmation s c.after (x₄.sky 0).now.year = some fx.adminLetter := by
    have later : 1 + 2 + Part.badgeSteps c.after + 2 + 0 = 5 + Part.badgeSteps c.after := by omega
    rw [userTold.sky_eq later, timed]
    exact follow.adminLetter
  obtain ⟨x₅, sendAdmin, fifth⟩ := Scene.leads_send (Letter.adminConfirmation s c.after) adminLetter
  have adminTold := userTold.trans fifth
  have entry : AuditEntry.forDecision c.after (x₅.world.ids x₅.world.idsDrawn) (clock 0) =
      some fx.auditEntry := by
    rw [adminTold.ids, adminTold.idsDrawn]
    exact follow.auditEntry
  obtain ⟨x₆, log, sixth⟩ := Scene.leads_log terminal entry
  have logged := adminTold.trans sixth
  -- The weather at the call of each part.
  have atNotification : x₁.sky 1 = sky (Part.notification.callAt c.after) := first.sky_eq rfl
  have atBadge : x₂.sky 0 = sky (Part.profileFlag.callAt c.after) := noted.sky_eq rfl
  have atUser : x₃.sky 1 = sky (Part.userEmail.callAt c.after) :=
    badged.sky_eq (by simp only [Part.callAt]; omega)
  have atAdmin : x₄.sky 1 = sky (Part.adminEmail.callAt c.after) :=
    userTold.sky_eq (by simp only [Part.callAt]; omega)
  have atEntry : x₅.sky 1 = sky (Part.auditEntry.callAt c.after) :=
    adminTold.sky_eq (by simp only [Part.callAt]; omega)
  rw [atNotification] at notify second
  rw [atBadge] at certify third
  rw [atUser] at sendUser
  rw [atAdmin] at sendAdmin
  rw [atEntry] at log sixth
  refine ⟨x₆, ?run, Effects.account terminal ?store ?outbox logged.queue⟩
  case run =>
    unfold onStatusChange
    rw [decision]
    simp only [Bool.not_true, Bool.false_eq_true, if_false]
    rw [Scene.run_bind_ok readClock, timed, Scene.run_bind_ok notify, Scene.run_bind_ok certify,
      Scene.run_bind_ok sendUser, Scene.run_bind_ok sendAdmin, Scene.run_bind_ok log]
    simp only [report, outcomeOf, Part.isDue, succeeds, beq_iff_eq, if_true]
    rfl
  case store =>
    rw [sixth.store, fifth.store, fourth.store, third.store, second.store, first.store, filed_eq]
    simp only [takesPlace, Part.isDue, succeeds, follow.badgeFor, follow.badgeAt, Bool.true_and,
      Bool.and_eq_true, beq_iff_eq]
  case outbox =>
    rw [logged.outbox, atUser, atAdmin]
    simp only [delivered, takesPlace, Part.isDue, succeeds, Bool.true_and, List.nil_append,
      List.append_nil]

/-- **The parts of a decision's aftermath are independent, and the report is truthful.** What each part
leads to is settled beforehand. Then, whichever calls fail, the store and the outbox get the effects of
exactly those parts whose own call succeeded, each once, and the report says of each part whether it took
place, failed or was skipped, as the badge is for a rejection; without an approval it is not attempted.
What is no decision is not followed up. -/
theorem parts_are_independent (s : Settings) (c : StatusChange) :
    (c.isDecision = true → ∀ (w : World) (clock : Nat → Instant), ∃ fx : Effects,
      fx.FollowFrom s c.after w clock ∧
      ∀ sky : Sky, (∀ n, (sky n).now = clock n) →
        ∃ report x', (Scene.mk w sky).run (onStatusChange s c) = (.ok report, x') ∧
          fx.Account c.after w sky report x'.world) ∧
    (c.after.status ≠ .approved → (onStatusChange s c).AsksOnly fun q => q.givesBadge = false) ∧
    (c.isDecision = false → onStatusChange s c = .done .idle ∧
      (∀ x : Scene, x.run (onStatusChange s c) = (.ok .idle, x)) ∧
      ∀ p, Report.idle.of p = .skipped) := by
  refine ⟨?decision, onStatusChange_gives_no_badge s, ?idle⟩
  case decision =>
    intro decision w clock
    have terminal := StatusChange.terminal_of_isDecision decision
    obtain ⟨fx, follow⟩ := Effects.exists_followFrom terminal s w clock
    refine ⟨fx, follow, ?_⟩
    intro sky timed
    obtain ⟨x', run, account⟩ := Effects.run_followUp decision follow timed
    exact ⟨_, x', run, account⟩
  case idle =>
    intro other
    have idle : onStatusChange s c = .done .idle := by
      rw [onStatusChange, other]
      rfl
    refine ⟨idle, ?_, fun p => by cases p <;> rfl⟩
    intro x
    rw [idle]
    rfl

/-- A desk that approves Ann's request. -/
def annsDesk : Settings := ⟨"desk@example.org", "admin@example.org", 1000, "https://h", none⟩

/-- Ann's request is decided. -/
def annsDecision (d : Decision) : StatusChange :=
  ⟨.pending, World.annsRequest.decided d .emailLink ⟨1, 0⟩⟩

/-- The store is down for the notification, and the relay loses the letter to the user. -/
def twoFailures : Sky := fun n =>
  ⟨⟨1, 0⟩, n != 2, true, fun _ => if n = 5 then .error .unreachable else .ok ()⟩

/-- Ann's approval is followed up while two calls fail: she has the badge and the administrator is told,
but she is not. Her rejection gives no badge, and her request alone is not followed up. -/
theorem annsApproval_meets_two_failures :
    ((annsDecision .approve).isDecision = true ∧ (∀ n, (twoFailures n).now = ⟨1, 0⟩) ∧
      ∃ (fx : Effects) (report : Report) (x' : Scene),
        (Scene.mk World.withAnnsRequest twoFailures).run
          (onStatusChange annsDesk (annsDecision .approve)) = (.ok report, x') ∧
        report = ⟨.failed, .done, .failed, .done, .done⟩ ∧ x'.world.store.notifications = [] ∧
        x'.world.store.audit = [fx.auditEntry] ∧ x'.world.outbox = [fx.adminLetter]) ∧
    ((annsDecision (.reject "why")).after.status ≠ .approved ∧
      (onStatusChange annsDesk (annsDecision (.reject "why"))).AsksOnly fun q => q.givesBadge = false) ∧
    (StatusChange.mk .pending World.annsRequest).isDecision = false ∧
      onStatusChange annsDesk ⟨.pending, World.annsRequest⟩ = .done .idle := by
  obtain ⟨decides, -⟩ := parts_are_independent annsDesk (annsDecision .approve)
  obtain ⟨-, modest, -⟩ := parts_are_independent annsDesk (annsDecision (.reject "why"))
  obtain ⟨-, -, idle⟩ := parts_are_independent annsDesk ⟨.pending, World.annsRequest⟩
  obtain ⟨fx, follow, any⟩ := decides rfl World.withAnnsRequest fun _ => ⟨1, 0⟩
  obtain ⟨report, x', run, account⟩ := any twoFailures fun _ => rfl
  have notification : report.notification = .failed := (account.failed .notification).2 ⟨rfl, rfl⟩
  have profileFlag : report.profileFlag = .done := (account.done .profileFlag).2 rfl
  have userEmail : report.userEmail = .failed := (account.failed .userEmail).2 ⟨rfl, rfl⟩
  have adminEmail : report.adminEmail = .done := (account.done .adminEmail).2 rfl
  have auditEntry : report.auditEntry = .done := (account.done .auditEntry).2 rfl
  refine ⟨⟨rfl, fun _ => rfl, fx, report, x', run, ?_, ?_, ?_, ?_⟩, ⟨by decide, modest (by decide)⟩, rfl,
    (idle rfl).1⟩
  · cases report
    cases notification
    cases profileFlag
    cases userEmail
    cases adminEmail
    cases auditEntry
    rfl
  · rw [account.store]
    rfl
  · rw [account.store]
    rfl
  · rw [account.outbox]
    rfl

end Dispatch

end ApprovalDesk
