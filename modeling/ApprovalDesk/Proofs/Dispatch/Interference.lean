import ApprovalDesk.Proofs.Dialogue.Alike
import ApprovalDesk.Proofs.Weather.Deeds
import ApprovalDesk.Proofs.Dispatch.Consequences
import ApprovalDesk.Proofs.Store.Locality

/-!
# The dispatcher beside the desk

The dispatcher works while calls are answered: between any two steps of a call it may take some of its
own, to take the next event from the queue, to go on with the event it has in hand, or not at all. What
it does leaves requests and tokens alone, and the steps of a call depend on nothing else that is on
record. So the calls are answered as if there were no dispatcher (`dispatcher_cannot_interfere`).
-/

namespace ApprovalDesk

set_option autoImplicit false

open ApprovalDesk.Dialogue

/-! ## Stores with the same requests and tokens -/

/-- Stores with the same requests and tokens, whatever else is on record. -/
structure Store.Agrees (s s' : Store) : Prop where
  requests : s.requests = s'.requests
  tokens : s.tokens = s'.tokens

namespace Store

variable {s s' s'' : Store}

theorem Agrees.symm (h : s.Agrees s') : s'.Agrees s := ⟨h.requests.symm, h.tokens.symm⟩

theorem Agrees.trans (h : s.Agrees s') (k : s'.Agrees s'') : s.Agrees s'' :=
  ⟨h.requests.trans k.requests, h.tokens.trans k.tokens⟩

theorem Agrees.agreesOn (h : s.Agrees s') (ids : List String) : s.AgreesOn ids s' :=
  ⟨fun _ _ => by rw [h.requests], fun _ _ => by rw [h.tokens]⟩

/-- What a call to the store comes to does not depend on notifications, profiles and audit entries, nor
does what it makes of requests and tokens. -/
theorem Agrees.answer (h : s.Agrees s') (call : StoreCall) :
    (∃ reply t t', s.answer call = .ok (reply, t) ∧ s'.answer call = .ok (reply, t') ∧ t.Agrees t') ∨
      ∃ c, s.answer call = .error c ∧ s'.answer call = .error c := by
  refine (h.agreesOn call.ids).answer.imp_left ?_
  rintro ⟨reply, t, t', left, right, agrees⟩
  have same (id : String) : t.AgreesOn [id] t' := by
    by_cases named : id ∈ call.ids
    · exact agrees.single named
    · have before := s.agreesOn_after (List.forall_mem_singleton.2 named)
      have before' := s'.agreesOn_after (List.forall_mem_singleton.2 named)
      rw [after_of_answer left] at before
      rw [after_of_answer right] at before'
      exact before.symm.trans ((h.agreesOn [id]).trans before')
  exact ⟨reply, t, t', left, right, Table.ext fun id => (same id).requests id List.mem_cons_self,
    Table.ext fun id => (same id).tokens id List.mem_cons_self⟩

end Store

/-! ## Moments -/

/-- The weather at a moment, and what is drawn if something is drawn then. -/
structure Moment where
  weather : Weather
  id : Uuid
  random : RandomBlock

/-- The world at a moment. -/
def World.at (w : World) (m : Moment) : World :=
  { w.under m.weather with ids := fun _ => m.id, secrets := fun _ => m.random }

namespace World

/-- In worlds with the same requests and tokens a step comes to the same at the same moment, and the
worlds after it have the same requests and tokens. -/
theorem ends_answer_at {w w' : World} (h : w.store.Agrees w'.store) (q : Step) (m : Moment) :
    Ends Eq (fun v v' => v.store.Agrees v'.store) ((w.at m).answer q) ((w'.at m).answer q) := by
  cases q with
  | store call =>
    cases up : m.weather.storeUp with
    | true =>
      have reached (w : World) : (w.at m).up call = true := up
      obtain ⟨reply, t, t', left, right, agrees⟩ | ⟨c, left, right⟩ := h.answer call
      · rw [answer, answer, answerStore, answerStore, if_pos (reached w), if_pos (reached w'),
          show (w.at m).store.answer call = _ from left,
          show (w'.at m).store.answer call = _ from right]
        exact .value rfl agrees
      · rw [answer, answer, answerStore, answerStore, if_pos (reached w), if_pos (reached w'),
          show (w.at m).store.answer call = _ from left,
          show (w'.at m).store.answer call = _ from right]
        exact .crash c h
    | false =>
      have unreached (w : World) : ¬ (w.at m).up call = true := fun reached =>
        Bool.false_ne_true (up.symm.trans reached)
      rw [answer, answer, answerStore, answerStore, if_neg (unreached w), if_neg (unreached w')]
      exact .value rfl h
  | readClock | drawId => exact .value rfl h
  | drawSecret =>
    have answered (w : World) : (w.at m).answer .drawSecret =
        if m.weather.randomUp then (.ok (some m.random), (w.at m).drawn)
        else (.ok none, w.at m) := rfl
    rw [answered, answered]
    split <;> exact .value rfl h
  | publish e =>
    refine .value rfl ?_
    change ((w.at m).announce e).store.Agrees ((w'.at m).announce e).store
    rw [announce_store, announce_store]
    exact h
  | deliver l =>
    have same : (w'.at m).relay l = (w.at m).relay l := rfl
    rw [answer, answer, same]
    cases (w.at m).relay l <;> exact .value rfl h

end World

/-! ## The office -/

/-- The world, and what is left of the event that the dispatcher has in hand. -/
structure Office where
  world : World
  inHand : Flow Dispatch.Report

namespace Office

/-- Before the dispatcher has taken an event. -/
def opening (w : World) : Office := ⟨w, .done .idle⟩

/-- The dispatcher takes one step: it goes on with the event in hand or takes the next one. -/
def turn (s : Settings) (x : Office) (m : Moment) : Office :=
  match x.inHand with
  | .ask q next =>
    let result := (x.world.at m).answer q
    ⟨result.2, resume next result.1⟩
  | .done _ =>
    match x.world.queue with
    | [] => x
    | e :: rest => ⟨{ x.world with queue := rest }, Dispatch.handle s e⟩
  | .crash _ => x

/-- The dispatcher takes some steps. -/
def turns (s : Settings) (x : Office) (ms : List Moment) : Office := ms.foldl (turn s) x

/-- The event in hand leads to nothing but what follows from it. -/
def Modest (x : Office) : Prop := x.inHand.AsksOnly fun q => q.followsUp = true

variable {s : Settings} {x : Office}

theorem modest_opening (w : World) : (opening w).Modest := .done _

/-- A step of the dispatcher leaves requests and tokens alone. -/
theorem Modest.turn (modest : x.Modest) (m : Moment) :
    (x.turn s m).Modest ∧ x.world.store.Agrees (x.turn s m).world.store := by
  obtain ⟨w, inHand⟩ := x
  unfold Office.turn
  cases inHand with
  | ask q next =>
    cases modest with
    | ask followsUp rest =>
      obtain ⟨requests, tokens⟩ := World.records_answer_of_followsUp q (w.at m) followsUp
      refine ⟨?_, requests.symm, tokens.symm⟩
      dsimp only [Modest]
      rcases ((w.at m).answer q).1 with c | reply
      · exact .crash c
      · exact rest reply
  | done report =>
    dsimp only
    cases w.queue with
    | nil => exact ⟨.done report, rfl, rfl⟩
    | cons e rest => exact ⟨Dispatch.handle_asks s e, rfl, rfl⟩
  | crash c => exact ⟨.crash c, rfl, rfl⟩

theorem Modest.turns (modest : x.Modest) (ms : List Moment) :
    (x.turns s ms).Modest ∧ x.world.store.Agrees (x.turns s ms).world.store := by
  induction ms generalizing x with
  | nil => exact ⟨modest, rfl, rfl⟩
  | cons m ms ih =>
    obtain ⟨still, first⟩ := modest.turn (s := s) m
    obtain ⟨last, rest⟩ := ih still
    exact ⟨last, first.trans rest⟩

end Office

/-! ## The day -/

/-- An office, the moments of the steps that calls are about to take, and those of the steps that the
dispatcher takes before each of them. -/
structure Workday where
  office : Office
  moments : Nat → Moment
  breaks : Nat → List Moment

namespace Workday

/-- The dispatcher takes its steps, and then a call takes one. -/
def answer (s : Settings) (q : Step) (x : Workday) : Except Crash q.Reply × Workday :=
  let office := x.office.turns s (x.breaks 0)
  let result := (office.world.at (x.moments 0)).answer q
  (result.1, {
    office := { office with world := result.2 }
    moments := fun n => x.moments (n + 1)
    breaks := fun n => x.breaks (n + 1) })

/-- The answers to calls, one after another, and the day after them. -/
def serve (s : Settings) : List Call → Workday → List (Except Crash Answer) × Workday
  | [], x => ([], x)
  | c :: cs, x =>
    let first := Dialogue.run (answer s) (c.flow s) x
    let rest := serve s cs first.2
    (first.1 :: rest.1, rest.2)

/-- Days that are the same but for what the dispatcher does. -/
structure Parallel (x y : Workday) : Prop where
  records : x.office.world.store.Agrees y.office.world.store
  moments : x.moments = y.moments
  modest : x.office.Modest
  modest' : y.office.Modest

variable {s : Settings} {x y : Workday}

/-- Whatever steps the dispatcher takes on the two days, the requests and tokens are the same. -/
theorem Parallel.turns (h : x.Parallel y) (ms ms' : List Moment) :
    (x.office.turns s ms).world.store.Agrees (y.office.turns s ms').world.store :=
  ((h.modest.turns ms).2.symm.trans h.records).trans (h.modest'.turns ms').2

/-- Whatever steps the dispatcher takes first, a step of a call comes to the same. -/
theorem ends_answer {q q' : Step} {T : q.Reply → q'.Reply → Prop} (matched : Itself q q' T)
    (h : x.Parallel y) : Ends T Parallel (x.answer s q) (y.answer s q') := by
  cases matched
  have ends := World.ends_answer_at (h.turns (s := s) (x.breaks 0) (y.breaks 0)) q (x.moments 0)
  have modest := (h.modest.turns (s := s) (x.breaks 0)).1
  have modest' := (h.modest'.turns (s := s) (y.breaks 0)).1
  unfold answer
  dsimp only
  rw [← h.moments]
  generalize ((x.office.turns s (x.breaks 0)).world.at (x.moments 0)).answer q = left at ends ⊢
  generalize ((y.office.turns s (y.breaks 0)).world.at (x.moments 0)).answer q = right at ends ⊢
  cases ends with
  | value same records => exact .value same ⟨records, rfl, modest, modest'⟩
  | crash c records => exact .crash c ⟨records, rfl, modest, modest'⟩

/-- Calls are answered the same on days that are the same but for what the dispatcher does. -/
theorem Parallel.serve (h : x.Parallel y) (calls : List Call) :
    (serve s calls x).1 = (serve s calls y).1 ∧ (serve s calls x).2.Parallel (serve s calls y).2 := by
  induction calls generalizing x y with
  | nil => exact ⟨rfl, h⟩
  | cons c calls ih =>
    have ends : Ends Eq Parallel (Dialogue.run (answer s) (c.flow s) x)
        (Dialogue.run (answer s) (c.flow s) y) :=
      (Alike.itself (c.flow s)).run (fun matched around => ends_answer matched around) h
    obtain ⟨answer, first⟩ := ends.eq
    obtain ⟨answers, rest⟩ := ih first
    exact ⟨List.cons_eq_cons.2 ⟨answer, answers⟩, rest⟩

end Workday

/-! ## No interference -/

/-- A deed leaves notifications, profiles and the audit log alone. -/
theorem Deed.store_consequences (d : Deed) (s : Store) :
    (d.store s).notifications = s.notifications ∧ (d.store s).profiles = s.profiles ∧
      (d.store s).audit = s.audit := by
  cases d <;> exact ⟨rfl, rfl, rfl⟩

/-- **The dispatcher cannot interfere with the workflow.** Handling any event leaves requests, tokens and
the queue alone, and a call to the workflow leaves notifications, profiles and the audit log alone. So
whatever steps the dispatcher takes before each step of each call and after the last of them, the calls
are answered the same, and the requests and tokens are the same in the end. -/
theorem dispatcher_cannot_interfere (s : Settings) :
    (∀ (e : Event) (x : Scene),
      (x.run (Dispatch.handle s e)).2.world.store.requests = x.world.store.requests ∧
      (x.run (Dispatch.handle s e)).2.world.store.tokens = x.world.store.tokens ∧
      (x.run (Dispatch.handle s e)).2.world.queue = x.world.queue) ∧
    (∀ (c : Call) (x : Scene), c.isService = true →
      (x.run (c.flow s)).2.world.store.notifications = x.world.store.notifications ∧
      (x.run (c.flow s)).2.world.store.profiles = x.world.store.profiles ∧
      (x.run (c.flow s)).2.world.store.audit = x.world.store.audit) ∧
    ∀ (calls : List Call) (w : World) (moments : Nat → Moment) (breaks breaks' : Nat → List Moment)
      (rest rest' : List Moment),
      let day := Workday.serve s calls ⟨.opening w, moments, breaks⟩
      let day' := Workday.serve s calls ⟨.opening w, moments, breaks'⟩
      day.1 = day'.1 ∧
        (day.2.office.turns s rest).world.store.requests =
          (day'.2.office.turns s rest').world.store.requests ∧
        (day.2.office.turns s rest).world.store.tokens =
          (day'.2.office.turns s rest').world.store.tokens := by
  refine ⟨fun e x => ?handle, fun c x service => ?call, fun calls w moments breaks breaks' rest rest' =>
    ?interleaved⟩
  case handle =>
    obtain ⟨requests, tokens⟩ := (Scene.aftermath_handle s e x).records
    exact ⟨requests, tokens, Scene.queue_handle s e x⟩
  case call =>
    obtain ⟨deed, -, store, -⟩ := x.run_call s service
    rw [store]
    exact deed.store_consequences _
  case interleaved =>
    have start : Workday.Parallel ⟨.opening w, moments, breaks⟩ ⟨.opening w, moments, breaks'⟩ :=
      ⟨⟨rfl, rfl⟩, rfl, Office.modest_opening w, Office.modest_opening w⟩
    obtain ⟨answers, days⟩ := start.serve (s := s) calls
    have records := days.turns (s := s) rest rest'
    exact ⟨answers, records.requests, records.tokens⟩

/-- A moment at which nothing fails. -/
def Moment.fair : Moment :=
  ⟨Sky.fair 0, World.withAnnsRequest.ids 0, World.withAnnsRequest.secrets 0⟩

/-- Ann's request is approved in the panel and looked at, and the dispatcher takes some steps before each
step of that. -/
def annsApproval (steps : Nat) : List (Except Crash Answer) × Workday :=
  Workday.serve ⟨"", "", 5000, "", none⟩ [.processViaPanel "r1" .approve "root", .find "r1"]
    ⟨.opening World.withAnnsRequest, fun _ => .fair, fun _ => List.replicate steps .fair⟩

/-- The dispatcher tells Ann and the administrator between the two calls, or does nothing; the approval
itself leaves the audit log alone. -/
theorem annsApproval_beside_dispatcher :
    (Scene.run ((Call.processViaPanel "r1" .approve "root").flow ⟨"", "", 5000, "", none⟩)
      ⟨World.withAnnsRequest, .fair⟩).2.world.store.audit = [] ∧
    (annsApproval 20).2.office.world.outbox.length = 2 ∧
      (annsApproval 0).2.office.world.outbox.length = 0 ∧
      (annsApproval 20).1 = (annsApproval 0).1 ∧
      (annsApproval 20).2.office.world.store.requests = (annsApproval 0).2.office.world.store.requests ∧
      (annsApproval 20).2.office.world.store.tokens = (annsApproval 0).2.office.world.store.tokens := by
  have ends : (annsApproval 20).2.office.world.outbox.length = 2 ∧
      (annsApproval 0).2.office.world.outbox.length = 0 := by decide +kernel
  obtain ⟨-, call, interleaved⟩ := dispatcher_cannot_interfere ⟨"", "", 5000, "", none⟩
  refine ⟨(call _ ⟨World.withAnnsRequest, .fair⟩ rfl).2.2, ends.1, ends.2, ?_⟩
  unfold annsApproval
  exact interleaved _ _ _ _ _ [] []

end ApprovalDesk
