import ApprovalDesk.Proofs.Config.Validity
import ApprovalDesk.Proofs.Errands.Turns
import ApprovalDesk.Proofs.Http.Steadfast

/-!
# A configured desk does not crash

The end of the validity of a token is computed whenever the token is checked, and it may lie beyond the
calendar. With a validity that the configuration admits it does not, for a token that is minted in time;
so as long as all tokens are, nothing that is asked of the desk makes it crash, however late it is asked.
-/

namespace ApprovalDesk

set_option autoImplicit false

open ApprovalDesk.Text ApprovalDesk.Time

/-! ## Tokens on record -/

/-- The token that a call puts before the store. -/
def StoreCall.minted? : StoreCall → Option Token
  | .insertSubmission _ t | .insertToken t => some t
  | _ => none

/-- The token that a step puts before the store. -/
def Step.minted? : Step → Option Token
  | .store call => call.minted?
  | .readClock | .drawId | .drawSecret | .publish _ | .deliver _ => none

/-- The tokens that turns put before the store, as they were minted. A token is minted at the time of its
creation, which is a reading of the clock (`Workflow.mint_steps`). -/
def minted (turns : List Turn) : List Token := turns.filterMap fun t => t.question.minted?

theorem minted_append (turns later : List Turn) :
    minted (turns ++ later) = minted turns ++ minted later := List.filterMap_append

theorem Step.minted?_of_reads {q : Step} (reads : q.reads = true) : q.minted? = none := by
  cases q with
  | store call => cases call <;> first | rfl | cases reads
  | readClock | drawId | drawSecret | publish | deliver => rfl

namespace Store

variable {s : Store} {ttl : Int}

/-- The validity of every token on record ends within the calendar. -/
def Dated (ttl : Int) (s : Store) : Prop := ∀ id t, s.tokens.find? id = some t → t.InCalendar ttl

/-- No token gets a new date. -/
theorem Dated.after (dated : s.Dated ttl) {call : StoreCall}
    (fresh : ∀ t, call.minted? = some t → t.InCalendar ttl) : (s.after call).Dated ttl := by
  intro id t found
  have change := s.tokens_after call id
  rw [found] at change
  generalize earlier : s.tokens.find? id = before at change
  have remains {old : Token} (own : s.tokens.find? id = some old) (now : Instant) :
      (old.markUsed now).InCalendar ttl := by
    rw [Token.InCalendar, Token.markUsed_createdAt]
    exact dated id old own
  cases change with
  | same => exact dated id t earlier
  | inserted | submitted => exact fresh t rfl
  | marked | consumed => exact remains earlier _

/-- The verdict about a string whose token is dated is not a crash. -/
theorem Dated.guardVerdict (dated : s.Dated ttl) (id : String) {g : Option Guard}
    (own : ∀ guard, g = some guard → guard.ttl = ttl) (now : Instant) :
    ∃ v, guardVerdict (s.tokens.find? id) g now = .ok v := by
  cases g with
  | none => exact ⟨_, rfl⟩
  | some guard =>
    cases found : s.tokens.find? id with
    | none => exact ⟨_, rfl⟩
    | some t =>
      have inside : t.InCalendar guard.ttl := own guard rfl ▸ dated id t found
      exact Token.check_total (.inr inside) guard.supplied now

/-- A store whose tokens are dated answers every call that checks tokens against their validity. -/
theorem Dated.answer (dated : s.Dated ttl) {call : StoreCall} (guarded : (Step.store call).Guarded ttl) :
    ∃ reply s', s.answer call = .ok (reply, s') ∧ Step.Dated ttl (.store call) reply := by
  cases call with
  | commit id d a g now =>
    have own : ∀ guard, g = some guard → guard.ttl = ttl := by
      rintro guard rfl
      exact guarded
    have ends := s.commit_cases id d a g now
    cases result : s.commit id d a g now with
    | ok pair =>
      refine ⟨.ok pair.1, pair.2, ?_, trivial⟩
      rw [Store.answer, result]
      rfl
    | error c =>
      rw [result] at ends
      cases ends with
      | crashed r c found pending guard =>
        obtain ⟨v, sound⟩ := dated.guardVerdict id own now
        cases sound.symm.trans guard
  | findToken id =>
    refine ⟨_, _, rfl, ?_⟩
    cases found : s.tokens.find? id with
    | none => trivial
    | some t => exact dated id t found
  | ping | insertRequest | insertSubmission | findRequest | insertToken | markTokenUsed
  | insertNotification | certifyProfile | appendAudit => exact ⟨_, _, rfl, trivial⟩

end Store

/-! ## Steps and runs -/

namespace Scene

variable {ttl : Int} {x : Scene}

/-- A step that is no call to the store leaves the tokens alone. -/
theorem answer_beside_store (dated : x.world.store.Dated ttl) {q : Step}
    (other : ∀ call, q ≠ .store call) :
    ∃ reply x', x.answer q = (.ok reply, x') ∧ q.Dated ttl reply ∧ x'.world.store.Dated ttl := by
  obtain ⟨reply, x', answered, passes⟩ := x.answer_passes other
  refine ⟨reply, x', answered, ?_, passes.store ▸ dated⟩
  cases q with
  | store call => exact absurd rfl (other call)
  | readClock | drawId | drawSecret | publish | deliver => trivial

/-- A step of a steadfast flow gets an answer that the flow relies on, and tokens remain dated. -/
theorem answer_steadfast (dated : x.world.store.Dated ttl) {q : Step} (guarded : q.Guarded ttl)
    (fresh : ∀ t, q.minted? = some t → t.InCalendar ttl) :
    ∃ reply x', x.answer q = (.ok reply, x') ∧ q.Dated ttl reply ∧ x'.world.store.Dated ttl := by
  cases q with
  | store call =>
    cases up : (x.sky 0).storeUp with
    | false =>
      refine ⟨_, _, answer_store_down up, ?_, dated⟩
      cases call <;> trivial
    | true =>
      obtain ⟨reply, s, answered, relied⟩ := dated.answer guarded
      refine ⟨_, _, answer_store_up up answered, relied, ?_⟩
      have last : (x.world.store.after call).Dated ttl := dated.after fresh
      rwa [Store.after_of_answer answered] at last
  | readClock | drawId | drawSecret | publish | deliver =>
    exact answer_beside_store dated fun _ same => by cases same

/-- **A steadfast flow comes to its end** in a store whose tokens are dated, if it mints none that is
not; and they remain dated. -/
theorem run_steadfast {α : Type} {f : Flow α} (steadfast : Steadfast ttl f)
    (dated : x.world.store.Dated ttl) (fresh : ∀ t ∈ minted (turns f x), t.InCalendar ttl) :
    (∃ a, (x.run f).1 = .ok a) ∧ (x.run f).2.world.store.Dated ttl := by
  induction steadfast generalizing x with
  | done a => exact ⟨⟨a, rfl⟩, dated⟩
  | @ask q next guarded _ ih =>
    have own (t : Token) (mints : q.minted? = some t) : t ∈ minted (turns (.ask q next) x) := by
      rw [turns]
      rcases x.answer q with ⟨c | reply, x'⟩ <;>
        exact List.mem_filterMap.2 ⟨_, List.mem_cons_self, mints⟩
    obtain ⟨reply, x', answered, relied, still⟩ :=
      answer_steadfast dated guarded fun t mints => fresh t (own t mints)
    rw [turns, answered] at fresh
    rw [run_ask, answered]
    refine ih reply relied still fun t member => fresh t ?_
    exact minted_append [⟨q, .ok reply⟩] _ ▸ List.mem_append_right _ member

/-- A flow that only reads mints nothing. -/
theorem minted_of_reads {α : Type} {f : Flow α} (reads : f.AsksOnly fun q => q.reads = true) (x : Scene) :
    minted (turns f x) = [] :=
  List.filterMap_eq_nil_iff.2 fun t member =>
    Step.minted?_of_reads (question_of_turns reads x t member)

/-- A check comes to a verdict, whatever the clock says. -/
theorem run_check (dated : x.world.store.Dated ttl) (id supplied : String) :
    ∃ verdict, (x.run (Workflow.check ttl id supplied)).1 = .ok verdict := by
  refine (run_steadfast (Workflow.check_steadfast id supplied) dated ?_).1
  rw [minted_of_reads (Workflow.check_reads ttl id supplied)]
  exact List.forall_mem_nil _

end Scene

/-! ## Errands -/

/-- The errand was cut short by a crash. -/
def Errand.Result.isCrash : Errand.Result → Bool
  | .answer (.error _) | .response (.error _) | .report (.error _) => true
  | _ => false

namespace World

variable {s : Settings} {w : World}

/-- An errand that mints no token that cannot be dated comes to its end, and tokens remain dated. -/
theorem errand_steadfast (dated : w.store.Dated s.tokenTtl) {sky : Sky} {e : Errand}
    (fresh : ∀ t ∈ minted (w.errandTurns s sky e), t.InCalendar s.tokenTtl) :
    (w.errand s sky e).1.isCrash = false ∧ (w.errand s sky e).2.store.Dated s.tokenTtl := by
  cases e with
  | call c =>
    obtain ⟨⟨answer, answered⟩, last⟩ :=
      Scene.run_steadfast (x := ⟨w, sky⟩) (c.flow_steadfast s) dated fresh
    refine ⟨?_, last⟩
    unfold errand
    dsimp only
    rw [answered]
    rfl
  | http r =>
    obtain ⟨⟨answer, answered⟩, last⟩ :=
      Scene.run_steadfast (x := ⟨w, sky⟩) (Http.handle_steadfast s.tokenTtl r) dated fresh
    refine ⟨?_, last⟩
    unfold errand
    dsimp only
    rw [answered]
    rfl
  | dispatch =>
    unfold errandTurns at fresh
    unfold errand
    cases queued : w.queue with
    | nil => exact ⟨rfl, dated⟩
    | cons event rest =>
      rw [queued] at fresh
      obtain ⟨⟨report, reported⟩, last⟩ := Scene.run_steadfast (x := ⟨{ w with queue := rest }, sky⟩)
        (Dispatch.handle_steadfast s.tokenTtl s event) dated fresh
      refine ⟨?_, last⟩
      dsimp only
      rw [reported]
      rfl

/-- A script that mints no token that cannot be dated comes to its end, and tokens remain dated. -/
theorem errands_steadfast (dated : w.store.Dated s.tokenTtl) {script : List (Errand × Sky)}
    (fresh : ∀ t ∈ minted (w.turns s script), t.InCalendar s.tokenTtl) :
    (∀ result ∈ (w.errands s script).1, result.isCrash = false) ∧
      (w.errands s script).2.store.Dated s.tokenTtl := by
  induction script generalizing w with
  | nil => exact ⟨List.forall_mem_nil _, dated⟩
  | cons step script ih =>
    obtain ⟨e, sky⟩ := step
    rw [turns, minted_append, List.forall_mem_append] at fresh
    obtain ⟨ended, still⟩ := errand_steadfast dated fresh.1
    obtain ⟨others, last⟩ := ih still fresh.2
    exact ⟨List.forall_mem_cons.2 ⟨ended, others⟩, last⟩

/-- **A configured desk never crashes.** From a configuration that can be read the desk takes a validity
of whole days, at least one and at most 3650, and the letter about a new request names their number. It
runs a script from an empty store, at whatever times and in whatever weather, except that no token is
minted later than 3650 days before the end of the calendar. Then the validity of every token on record
has an end, no errand of the script is cut short by a crash, and neither is any check that follows. -/
theorem configured_desk_never_crashes {env : Environment} {c : Config}
    (configured : Config.ofEnvironment env = .ok c) (ids : Nat → Uuid) (secrets : Nat → RandomBlock)
    (listening : Bool) (script : List (Errand × Sky))
    (inTime : ∀ t ∈ minted ((blank ids secrets listening).turns c.settings script),
      t.createdAt.Valid ∧ t.createdAt.isAfter Config.latestMint = false) :
    let run := (blank ids secrets listening).errands c.settings script
    1 ≤ c.tokenTtlDays ∧ c.tokenTtlDays ≤ 3650 ∧
      c.settings.tokenTtl = c.tokenTtlDays * 86400000 ∧ c.settings.ttlDays = c.tokenTtlDays ∧
      (∀ r token year letter, Letter.newRequest c.settings r token year = .ok letter →
        ("These links are valid for " ++ Decimal.intText c.tokenTtlDays ++ " days").toList <:+:
          letter.html.toList) ∧
      (∀ id t, run.2.store.tokens.find? id = some t →
        ∃ deadline, t.createdAt.addMillis c.settings.tokenTtl = some deadline) ∧
      (∀ result ∈ run.1, result.isCrash = false) ∧
      ∀ id supplied sky, ∃ verdict,
        (Scene.run (Workflow.check c.settings.tokenTtl id supplied) ⟨run.2, sky⟩).1 = .ok verdict := by
  intro run
  obtain ⟨least, most⟩ := Config.range_of_ttlDays (Config.ttlDays_of_ofEnvironment configured)
  have fresh : ∀ t ∈ minted ((blank ids secrets listening).turns c.settings script),
      t.InCalendar c.settings.tokenTtl := fun t member =>
    Instant.isSome_addMillis_days (inTime t member).1 (inTime t member).2 least most
  obtain ⟨ended, dated⟩ :=
    errands_steadfast (w := blank ids secrets listening) (fun _ _ found => by cases found) fresh
  refine ⟨least, most, rfl, c.ttlDays_settings, fun r token year letter made => ?_,
    fun id t found => Option.isSome_iff_exists.1 (dated id t found), ended, fun id supplied sky => ?_⟩
  · rw [← c.ttlDays_settings]
    exact Letter.newRequest_names_ttlDays made
  · exact Scene.run_check dated id supplied

/-- An environment with the longest validity. -/
def patientEnvironment : Environment := [
  ("BASE_URL", "https://h"), ("PORT", "8080"), ("TOKEN_TTL_DAYS", "3650"),
  ("SENDER_ADDRESS", "desk@example.org"), ("ADMIN_RECIPIENT", "admin@example.org")]

/-- What is read from it. -/
def patientConfig : Config where
  databaseUrl := none
  baseUrl := "https://h"
  host := "127.0.0.1"
  port := 8080
  senderAddress := "desk@example.org"
  adminRecipient := "admin@example.org"
  mailApiUrl := none
  mailApiKey := none
  tokenTtlDays := 3650
  adminConsoleUrl := none

/-- The clock stands still at a moment, and nothing fails. -/
def skyAt (now : Instant) : Sky := fun _ => ⟨now, true, true, fun _ => .ok ()⟩

/-- Ann submits a request at the last moment, the administrator is asked, and the link is followed at
the last moment of the calendar. -/
def annsLastMoment : List (Errand × Sky) := [
  (.call (.submit ⟨"u1", "Ann", "ann@example.org", none, none⟩), skyAt Config.latestMint),
  (.dispatch, .fair),
  (.call (.process "00000000-0000-0000-0000-000000000000"
    (Token.secretFor "00000000-0000-0000-0000-000000000000"
      ((quiet .empty ⟨0, 0⟩).secrets 0) Config.latestMint) .approve),
    skyAt ⟨Instant.lastSecond, 999999999⟩)]

/-- A desk at which nothing has happened yet. -/
def emptyDesk : World := blank (quiet .empty ⟨0, 0⟩).ids (quiet .empty ⟨0, 0⟩).secrets true

/-- Nothing crashes, and the validity of Ann's token has its end. -/
theorem annsLastMoment_does_not_crash :
    Config.ofEnvironment patientEnvironment = .ok patientConfig ∧
      (∀ result ∈ (emptyDesk.errands patientConfig.settings annsLastMoment).1, result.isCrash = false) ∧
      ∃ t deadline, (emptyDesk.errands patientConfig.settings annsLastMoment).2.store.tokens.find?
          "00000000-0000-0000-0000-000000000000" = some t ∧
        t.createdAt.addMillis patientConfig.settings.tokenTtl = some deadline := by
  have configured : Config.ofEnvironment patientEnvironment = .ok patientConfig := by decide +kernel
  have dates : (minted (emptyDesk.turns patientConfig.settings annsLastMoment)).map Token.createdAt =
      [Config.latestMint] := by decide +kernel
  have timely : Config.latestMint.Valid ∧ Config.latestMint.isAfter Config.latestMint = false := by
    unfold Instant.Valid
    decide +kernel
  have inTime : ∀ t ∈ minted (emptyDesk.turns patientConfig.settings annsLastMoment),
      t.createdAt.Valid ∧ t.createdAt.isAfter Config.latestMint = false := fun t member => by
    have date : t.createdAt ∈ [Config.latestMint] := dates ▸ List.mem_map_of_mem member
    rw [List.mem_singleton.1 date]
    exact timely
  have present : ((emptyDesk.errands patientConfig.settings annsLastMoment).2.store.tokens.find?
      "00000000-0000-0000-0000-000000000000").isSome = true := by
    decide +kernel
  unfold emptyDesk at inTime present ⊢
  obtain ⟨-, -, -, -, -, ends, sound, -⟩ :=
    configured_desk_never_crashes configured _ _ true annsLastMoment inTime
  obtain ⟨t, found⟩ := Option.isSome_iff_exists.1 present
  obtain ⟨deadline, last⟩ := ends _ t found
  exact ⟨configured, sound, t, deadline, found, last⟩

end World

end ApprovalDesk
