import Mathlib.Data.List.Forall2
import ApprovalDesk.Proofs.Shift.Basic

/-!
# Events mirror the answers

Whatever is announced is told by an answer, and the other way round: the queue holds one event for each
submission that succeeded and one for each decision that was carried out, in the order of the calls
(`Receipt.Announces`). For each request the events are its chronicle (`Event.Chronicle`), which ends with
what is on record; so a request is announced as submitted once, then as decided at most once. A decision
that was answered as carried out stands from then on (`Receipt.Stands`).
-/

namespace ApprovalDesk

set_option autoImplicit false

open ApprovalDesk.Workflow

/-! ## Events about a request -/

namespace Event

/-- The request that an event is about. -/
def requestId : Event → String
  | .submitted r _ => r.id
  | .statusChanged c => c.after.id

/-- The events about a request. -/
def about (id : String) (es : List Event) : List Event := es.filter (·.requestId == id)

theorem about_append (id : String) (es more : List Event) :
    about id (es ++ more) = about id es ++ about id more :=
  List.filter_append es more

theorem about_own {id : String} {e : Event} (own : e.requestId = id) : about id [e] = [e] :=
  List.filter_eq_self.2 fun e' member => by
    rw [List.mem_singleton.1 member]
    exact beq_iff_eq.2 own

theorem about_other {id : String} {e : Event} (other : id ≠ e.requestId) : about id [e] = [] :=
  List.filter_eq_nil_iff.2 fun e' member => by
    rw [List.mem_singleton.1 member, beq_iff_eq]
    exact other.symm

/-- The events about a request, and what is on record about it after them. -/
inductive Chronicle (id : String) : List Event → Option Request → Prop where
  | unknown : Chronicle id [] none
  | submitted {r : Request} {secret : String} (own : r.id = id) (pending : r.status = .pending) :
      Chronicle id [.submitted r secret] (some r)
  | decided {r after : Request} {secret : String} (own : r.id = id) (pending : r.status = .pending)
      (decision : StatusChange.isDecision ⟨.pending, after⟩ = true) (goes_on : r.Continues after) :
      Chronicle id [.submitted r secret, .statusChanged ⟨.pending, after⟩] (some after)

namespace Chronicle

variable {id : String} {es : List Event} {r : Request}

theorem own {record : Option Request} (h : Chronicle id es record) (found : record = some r) :
    r.id = id := by
  cases h with
  | unknown => cases found
  | submitted own =>
    cases found
    exact own
  | decided own _ _ goes_on =>
    cases found
    exact goes_on.id.trans own

/-- An unknown request can be submitted. -/
theorem submit (h : Chronicle id es none) (own : r.id = id) (pending : r.status = .pending)
    (secret : String) : Chronicle id (es ++ [.submitted r secret]) (some r) := by
  cases h
  exact .submitted own pending

/-- A pending request can be decided. -/
theorem decide (h : Chronicle id es (some r)) (pending : r.status = .pending) (d : Decision)
    (a : Actor) (now : Time.Instant) :
    Chronicle id (es ++ [.statusChanged ⟨.pending, r.decided d a now⟩]) (some (r.decided d a now)) := by
  cases h with
  | submitted own =>
    refine .decided own pending ?_ (.decided pending d a now)
    cases d <;> rfl
  | decided _ _ decision =>
    have terminal : r.status.isTerminal = true := StatusChange.terminal_of_isDecision decision
    rw [pending] at terminal
    cases terminal

end Chronicle

end Event

open Event (about Chronicle)

/-- An event carries on the chronicle of its own request if it does so for what is put on record, and
those of all other requests. -/
theorem Event.Chronicle.carried_on {es : List Event} {records : Table Request}
    (h : ∀ id, Chronicle id (about id es) (records.find? id)) {key : String} {e : Event} {r : Request}
    (own : e.requestId = key) (next : Chronicle key (about key es ++ [e]) (some r)) (id : String) :
    Chronicle id (about id (es ++ [e])) ((records.insert key r).find? id) := by
  rw [about_append, Table.find?_insert]
  by_cases same : id = key
  · rw [if_pos same, same, about_own own]
    exact next
  · rw [if_neg same, about_other fun eq => same (eq.trans own), List.append_nil]
    exact h id

/-- A deed carries on the chronicle of every request. -/
theorem Deed.Explains.chronicle {s : Store} {deed : Deed} {c : Call} {answer : Except Crash Answer}
    (explains : deed.Explains s c answer) {es : List Event}
    (h : ∀ id, Chronicle id (about id es) (s.requests.find? id)) :
    ∀ id, Chronicle id (about id (es ++ deed.events)) ((deed.store s).requests.find? id) := by
  cases explains with
  | nothing | issued | marked =>
    rw [Deed.events, List.append_nil]
    exact h
  | submitted complete newRequest =>
    exact Chronicle.carried_on h rfl ((newRequest ▸ h _).submit rfl rfl _)
  | @decided c id d a r now puts found pending =>
    have key : (r.decided d a now).id = id := (r.decided_id d a now).trans ((h id).own found)
    exact Chronicle.carried_on h key ((found ▸ h id).decide pending d a now)

/-! ## Receipts -/

/-- What is announced when the answer of the receipt has been given. -/
inductive Receipt.Announces : Receipt → List Event → Prop where
  | submitted {c : Call} {r : Request} {t : Token} {store : Store}
      (request : store.requests.find? r.id = some r) (token : store.tokens.find? r.id = some t) :
      Announces ⟨c, .ok (.submitted (.ok r)), store⟩ [.submitted r t.secret]
  | decided {c : Call} {after : Request} {store : Store}
      (decision : StatusChange.isDecision ⟨.pending, after⟩ = true)
      (request : store.requests.find? after.id = some after) :
      Announces ⟨c, .ok (.decided (.ok (.processed after))), store⟩ [.statusChanged ⟨.pending, after⟩]
  | silent {e : Receipt} (unsubmitted : ∀ r, e.answer ≠ .ok (.submitted (.ok r)))
      (undecided : ∀ after, e.answer ≠ .ok (.decided (.ok (.processed after)))) : Announces e []

/-- The decision that the receipt tells of is on record. -/
def Receipt.Stands (e : Receipt) (s : Store) : Prop :=
  ∀ after, e.answer = .ok (.decided (.ok (.processed after))) →
    after.status.isTerminal = true ∧ s.requests.find? after.id = some after

namespace Receipt

variable {e : Receipt}

theorem announces_of_modest (modest : ∀ a, e.answer = .ok a → a.claims = false) :
    e.Announces [] := by
  refine .silent ?_ ?_
  · intro r told
    cases modest _ told
  · intro after told
    cases modest _ told

theorem Announces.stands {es : List Event} (h : e.Announces es) : e.Stands e.store := by
  intro after told
  cases h with
  | submitted => cases told
  | decided decision request =>
    cases told
    exact ⟨StatusChange.terminal_of_isDecision decision, request⟩
  | silent _ undecided => exact absurd told (undecided after)

/-- A decision stands for good. -/
theorem Stands.later {s s' : Store} (h : e.Stands s) (goes_on : s.Continues s') : e.Stands s' := by
  intro after told
  obtain ⟨terminal, found⟩ := h after told
  obtain ⟨r, found', known⟩ := goes_on.requests _ _ found
  rw [known.final terminal] at found'
  exact ⟨terminal, found'⟩

end Receipt

/-- A deed is announced as its answer tells. -/
theorem Deed.Explains.announces {s : Store} {deed : Deed} {c : Call} {answer : Except Crash Answer}
    (explains : deed.Explains s c answer) (own : ∀ id r, s.requests.find? id = some r → r.id = id) :
    Receipt.Announces ⟨c, answer, deed.store s⟩ deed.events := by
  cases explains with
  | nothing modest => exact Receipt.announces_of_modest modest
  | @submitted data id secret now later =>
    obtain ⟨request, token⟩ :=
      Deed.stored_submitted s (Request.new id data now) (Token.new id secret later) rfl
    exact .submitted request token
  | issued | marked =>
    refine .silent ?_ ?_
    · intro r told
      cases told
    · intro after told
      cases told
  | @decided c id d a r now puts found pending =>
    refine .decided ?_ ?_
    · cases d <;> rfl
    · rw [Request.decided_id, own id r found]
      exact Table.find?_insert_self ..

/-! ## Shifts -/

namespace World

/-- The world before anything has happened: nothing is on record, and the queue is open and empty. -/
def fresh (w : World) : World := { w with store := .empty, listening := true, queue := [] }

end World

namespace Shift

/-- The events announced so far: those handled, then those in the queue. -/
def announced (x : Shift) : List Event := x.handled ++ x.world.queue

/-- What was announced mirrors the answers and what is on record. -/
structure Mirrored (x : Shift) : Prop where
  heard : x.world.listening = true
  told : ∃ told, List.Forall₂ Receipt.Announces x.receipts told ∧ x.announced = told.flatten
  chronicle : ∀ id, Chronicle id (about id x.announced) (x.store.requests.find? id)
  lasting : x.receipts.Pairwise fun e later => e.Stands later.store
  standing : ∀ e ∈ x.receipts, e.Stands x.store

namespace Mirrored

variable {x : Shift} {w : World}

theorem opening (w : World) : Mirrored (opening w.fresh) where
  heard := rfl
  told := ⟨[], .nil, rfl⟩
  chronicle _ := .unknown
  lasting := .nil
  standing e member := by cases member

/-- A call whose answer tells what was announced. -/
theorem answered (h : Mirrored x) {c : Call} {answer : Except Crash Answer} (es : List Event)
    (announces : Receipt.Announces ⟨c, answer, w.store⟩ es)
    (queue : w.queue = x.world.queue ++ es) (heard : w.listening = x.world.listening)
    (chronicle : ∀ id, Chronicle id (about id (x.announced ++ es)) (w.store.requests.find? id))
    (goes_on : x.store.Continues w.store) :
    Mirrored ⟨w, x.handled, x.receipts ++ [⟨c, answer, w.store⟩]⟩ := by
  have announced : x.handled ++ w.queue = x.announced ++ es := by
    rw [queue, Shift.announced, List.append_assoc]
  have standing : ∀ e ∈ x.receipts, e.Stands w.store :=
    fun e member => (h.standing e member).later goes_on
  obtain ⟨told, receipts, flat⟩ := h.told
  refine ⟨heard.trans h.heard, ⟨told ++ [es], ?_, ?_⟩, ?_, ?_, ?_⟩
  · exact List.rel_append receipts (.cons announces .nil)
  · rw [Shift.announced, announced, flat, List.flatten_append, List.flatten_singleton]
  · rw [Shift.announced, announced]
    exact chronicle
  · refine List.pairwise_append.2 ⟨h.lasting, List.pairwise_singleton .., ?_⟩
    intro e member later last
    rw [List.mem_singleton.1 last]
    exact standing e member
  · intro e member
    rcases List.mem_append.1 member with before | last
    · exact standing e before
    · rw [List.mem_singleton.1 last]
      exact announces.stands

/-- Handling an event moves it out of the queue and leaves the requests alone. -/
theorem dispatched (h : Mirrored x) {e : Event} (queue : x.world.queue = e :: w.queue)
    (heard : w.listening = x.world.listening) (requests : w.store.requests = x.store.requests)
    (goes_on : x.store.Continues w.store) : Mirrored ⟨w, x.handled ++ [e], x.receipts⟩ := by
  have announced : (x.handled ++ [e]) ++ w.queue = x.announced := by
    rw [Shift.announced, queue, List.append_assoc, List.singleton_append]
  refine ⟨heard.trans h.heard, ?_, ?_, h.lasting, ?_⟩
  · rw [Shift.announced, announced]
    exact h.told
  · rw [Shift.announced, announced, Shift.store, requests]
    exact h.chronicle
  · exact fun e member => (h.standing e member).later goes_on

/-- Every job keeps the events in step with the answers and the records. -/
theorem job (h : Mirrored x) (s : Settings) (j : Job) : Mirrored (x.job s j) := by
  have goes_on := x.continues_job s j
  have outcome := x.job_outcome s j
  generalize x.job s j = y at goes_on outcome ⊢
  cases outcome with
  | @served c sky answer deed w service explains store queue heard =>
    refine h.answered deed.events ?_ ?_ heard ?_ goes_on
    · rw [store]
      exact explains.announces fun id r found => (h.chronicle id).own found
    · rw [queue, h.heard, if_pos rfl]
    · rw [store]
      exact explains.chronicle h.chronicle
  | told modest aftermath queue heard =>
    refine h.answered [] (Receipt.announces_of_modest modest) ?_ heard ?_ goes_on
    · rw [queue, List.append_nil]
    · rw [aftermath.records.1, List.append_nil]
      exact h.chronicle
  | idle => exact h
  | dispatched queue aftermath _ heard =>
    exact h.dispatched queue heard aftermath.records.1 goes_on

end Mirrored

/-- A row of calls has a receipt for each of them and handles nothing. -/
theorem receipts_calls (s : Settings) (x : Shift) (calls : List (Call × Sky)) :
    let y := x.jobs s (calls.map fun c => .call c.1 c.2)
    y.handled = x.handled ∧ y.receipts.map (·.call) = x.receipts.map (·.call) ++ calls.map (·.1) := by
  induction calls generalizing x with
  | nil => exact ⟨rfl, (List.append_nil _).symm⟩
  | cons c calls ih =>
    obtain ⟨handled, receipts⟩ := ih (x.call s c.1 c.2)
    refine ⟨handled, receipts.trans ?_⟩
    simp [call]

/-- **Events mirror the answers.** After any row of calls to a fresh desk, in any weather, the queue is
what the answers announce, call by call; for every request it is the chronicle that ends with what is on
record; and every decision that was answered as carried out stands from then on. -/
theorem events_mirror_answers (s : Settings) (w : World) (calls : List (Call × Sky)) :
    let x := (opening w.fresh).jobs s (calls.map fun c => .call c.1 c.2)
    x.receipts.map (·.call) = calls.map (·.1) ∧
    (∃ told, List.Forall₂ Receipt.Announces x.receipts told ∧ x.world.queue = told.flatten) ∧
    (∀ id, Chronicle id (about id x.world.queue) (x.store.requests.find? id)) ∧
    (x.receipts.Pairwise fun e later => e.Stands later.store) ∧ ∀ e ∈ x.receipts, e.Stands x.store := by
  intro x
  obtain ⟨handled, receipts⟩ := receipts_calls s (opening w.fresh) calls
  have mirrored : Mirrored x :=
    jobs_keep Mirrored (fun x j _ h => h.job s j) (.opening w)
  have queue : x.announced = x.world.queue := congrArg (· ++ x.world.queue) handled
  refine ⟨receipts, ?_, ?_, mirrored.lasting, mirrored.standing⟩
  · exact queue ▸ mirrored.told
  · exact queue ▸ mirrored.chronicle

/-- A second decision about the same request is not announced. -/
example :
    let id := "00000000-0000-0000-0000-000000000000"
    let calls : List (Call × Sky) := [(.submit ⟨"u1", "Ann", "ann@example.org", none, none⟩, .fair),
      (.processViaPanel id .approve "Bob", .fair), (.processViaPanel id (.reject "late") "Eve", .fair)]
    let x := (opening (World.quiet .empty ⟨0, 0⟩).fresh).jobs ⟨"", "", 5000, "", none⟩
      (calls.map fun c => .call c.1 c.2)
    x.receipts.length = 3 ∧ x.world.queue.length = 2 :=
  ⟨rfl, rfl⟩

end Shift

end ApprovalDesk
