import ApprovalDesk.Proofs.Concurrent.Pool
import ApprovalDesk.Proofs.Token.Check
import ApprovalDesk.Proofs.World.Run

/-!
# One decision per request

However calls run at the same time, and whatever the clock and the availability of the store do in
between, a pending request is decided once. At most one call says that it decided; whoever is told that
the request had been decided is told what that call decided, after it did. And a decision through the
link whose inspection found the request pending has an end that tells what happened in between.
-/

namespace ApprovalDesk.Pool

set_option autoImplicit false

open ApprovalDesk.Dialogue ApprovalDesk.Workflow

variable {ι : Type} [DecidableEq ι]

/-- What the answers say about a request that was pending at the start. -/
structure OneDecision (calls : ι → Call) (p : Pool ι) (id : String) : Prop where
  /-- At most one call answers that it decided. -/
  once : ∀ i j a b, (calls i).about = some id → (calls j).about = some id →
    p.left i = .done a → p.left j = .done b → a.processed?.isSome → b.processed?.isSome → i = j
  /-- A status is told only after one call had the decision carried out that led to it, and no other
  call had one carried out. -/
  told : ∀ i a status, (calls i).about = some id → p.left i = .done a →
    a.alreadyProcessed? = some status →
    ∃ k after past t future, p.log = past ++ (k, t) :: future ∧ t.Writes id after ∧
      after.status = status ∧ (∃ u, (i, u) ∈ future ∧ Turn.Reports id status u) ∧
      (∀ j u after', (j, u) ∈ p.log → u.Writes id after' → j = k) ∧
      (p.left k).Answers (.decided (.ok (.processed after)))

/-- The inspection made by a call has found a pending request. -/
def FoundPending (s : Settings) (p : Pool ι) (i : ι) (id supplied : String) : Prop :=
  ∃ r first second, ownTurns i p.log = first ++ second ∧
    Leads (inspect s.tokenTtl id supplied).run first (.done (.ok (.pending r)))

/-- How a decision through the link can end once its inspection has found the request pending. -/
inductive LateEnd (s : Settings) (p : Pool ι) (i : ι) (id supplied : String) (d : Decision) :
    Answer → Prop where
  | processed (r : Request) : LateEnd s p i id supplied d (.decided (.ok (.processed r)))
  | alreadyProcessed (status : Status) :
      LateEnd s p i id supplied d (.decided (.ok (.alreadyProcessed status)))
  /-- The token was used or ran out in between. -/
  | forbidden (v : Verdict) (now : Time.Instant) (cause : v = .spent ∨ v = .expired)
      (refused : (i, ⟨.store (.commit id d .emailLink (some ⟨supplied, s.tokenTtl⟩) now),
        .ok (.ok (.refused (.tokenRejected v)))⟩) ∈ p.log) :
      LateEnd s p i id supplied d (.decided (.error .forbidden))
  | unavailable : LateEnd s p i id supplied d (.decided (.error (.storage .unavailable)))

variable {s : Settings} {calls : ι → Call} {w : World} {p : Pool ι}

/-- A call that answers that it decided has its decision in the log. -/
theorem Consistent.writes (h : Consistent s calls w p) {i : ι} {a : Answer} {id : String}
    (about : (calls i).about = some id) (ended : p.left i = .done a)
    (processed : a.processed?.isSome) : ∃ t after, (i, t) ∈ p.log ∧ t.Writes id after := by
  obtain ⟨after, same⟩ := Option.isSome_iff_exists.1 processed
  have leads := h.leads i
  rw [ended] at leads
  obtain ⟨own, decides, t, taken, writes⟩ := Call.writes_of_processed leads (h.regular i) same
  obtain rfl : own = id := Option.some.inj ((Call.about_of_decides decides).symm.trans about)
  exact ⟨t, after, mem_ownTurns.1 taken, writes⟩

/-- A pending request is decided once. -/
theorem Consistent.oneDecision (h : Consistent s calls w p) {id : String} {r : Request}
    (found : w.store.requests.find? id = some r) (pending : r.status = .pending) :
    OneDecision calls p id where
  once i j a b aboutᵢ aboutⱼ endedᵢ endedⱼ processedᵢ processedⱼ := by
    obtain ⟨t, after, takenᵢ, writesᵢ⟩ := h.writes aboutᵢ endedᵢ processedᵢ
    obtain ⟨u, after', takenⱼ, writesⱼ⟩ := h.writes aboutⱼ endedⱼ processedⱼ
    cases h.history.fate found with
    | undecided _ nobody => exact absurd writesᵢ (nobody i t after takenᵢ)
    | decided k _ _ _ _ alone =>
      rw [(alone i t after takenᵢ writesᵢ).1, (alone j u after' takenⱼ writesⱼ).1]
  told i a status about ended same := by
    have leads := h.leads i
    rw [ended] at leads
    obtain ⟨own, about', t, taken, reports⟩ :=
      Call.reports_of_alreadyProcessed leads (h.regular i) same
    obtain rfl : own = id := Option.some.inj (about'.symm.trans about)
    obtain ⟨early, late, split⟩ := List.append_of_mem (mem_ownTurns.1 taken)
    have history := h.history
    rw [split] at history
    obtain ⟨k, u, after, written, writes, status⟩ :=
      history.written_before_reported found pending reports
    obtain ⟨past, between, rfl⟩ := List.append_of_mem written
    have whole : p.log = past ++ (k, u) :: (between ++ (i, t) :: late) := by rw [split]; simp
    have taken' : (k, u) ∈ p.log := by rw [whole]; simp
    refine ⟨k, after, past, u, between ++ (i, t) :: late, whole, writes, status,
      ⟨t, by simp, reports⟩, ?_, ?_⟩
    · intro j v after' member again
      cases h.history.fate found with
      | undecided _ nobody => exact absurd again (nobody j v after' member)
      | decided k' _ _ _ _ alone =>
        rw [(alone j v after' member again).1, (alone k u after taken' writes).1]
    · exact (Call.answers_of_writes (h.leads k) (h.regular k) (mem_ownTurns.2 taken') writes).2

/-- What the store can reply to a decision through the link, once the inspection of the call has
found the request pending. The request and the token are still there, with the string that was
shown. -/
theorem Consistent.late_reply (h : Consistent s calls w p) {i : ι} {id supplied : String}
    {d : Decision} {r : Request} {first second : List Turn} {now : Time.Instant}
    {reply : Except Crash (Except StoreError CommitOutcome)}
    (own : ownTurns i p.log =
      first ++ ⟨.store (.commit id d .emailLink (some ⟨supplied, s.tokenTtl⟩) now), reply⟩ :: second)
    {seen : List Turn} (early : ∀ t ∈ seen, t ∈ first)
    (found : Leads (inspect s.tokenTtl id supplied).run seen (.done (.ok (.pending r)))) :
    ∃ result, reply = .ok result ∧ LateEnd s p i id supplied d (.decided (told result)) := by
  obtain ⟨past, future, log, before⟩ := log_of_ownTurns own
  have history := h.history
  rw [log] at history
  obtain ⟨s₁, s₂, earlier, happens, -⟩ := history.split
  obtain ⟨-, readRequest, token, then_, readToken, checked⟩ := inspect_pending found
  have logged : ∀ t ∈ seen, (i, t) ∈ past := fun t member =>
    mem_ownTurns.1 (before ▸ early t member)
  obtain ⟨r', recorded, -⟩ := earlier.request_of_read (logged _ readRequest)
  obtain ⟨token', kept, goes_on⟩ := earlier.token_of_read (logged _ readToken)
  obtain ⟨v, checked', possible⟩ := Token.check_after_valid checked goes_on now
  have guard : guardVerdict (s₁.tokens.find? id) (some ⟨supplied, s.tokenTtl⟩) now = .ok v := by
    rw [kept]
    exact checked'
  rcases happens.commit with ⟨rfl, -⟩ | ⟨outcome, rfl, ends⟩ | ⟨c, rfl, -, ends⟩
  · exact ⟨_, rfl, .unavailable⟩
  · refine ⟨_, rfl, ?_⟩
    cases ends with
    | missing absent =>
      rw [absent] at recorded
      cases recorded
    | settled r found terminal => exact .alreadyProcessed r.status
    | barred r v' found pending guard' invalid =>
      obtain rfl : v = v' := Except.ok.inj (guard.symm.trans guard')
      have cause : v = .spent ∨ v = .expired := possible.resolve_left invalid
      exact .forbidden v now cause (by rw [log]; simp)
    | carried r found pending guard => exact .processed _
  · cases ends with
    | crashed r c found pending guard' =>
      rw [guard] at guard'
      cases guard'

/-- Once its inspection has found the request pending, a decision through the link does not crash, and
it has one of the ends listed. -/
theorem Consistent.lateEnd (h : Consistent s calls w p) {i : ι} {id supplied : String}
    {d : Decision} (call : calls i = .process id supplied d) (pending : FoundPending s p i id supplied) :
    (∀ c, p.left i ≠ .crash c) ∧ ∀ a, p.left i = .done a → LateEnd s p i id supplied d a := by
  obtain ⟨r, first, second, own, found⟩ := pending
  have leads := h.leads i
  have regular := h.regular i
  rw [call, own] at leads
  rw [own] at regular
  obtain ⟨y, inner, left⟩ := Leads.map_cases leads
  rw [process_steps] at inner
  have started := Leads.second_of_first found inner
  have decision : CommitTurns id d .emailLink (some ⟨supplied, s.tokenTtl⟩) second y :=
    commit_turns started fun t member => regular t (List.mem_append_right _ member)
  rw [left]
  rcases decision.ending with ⟨q, next, rfl⟩ | ⟨now, reply, later, rfl, rfl⟩
  · constructor
    · intro c same
      cases map_eq_crash same
    · intro a same
      obtain ⟨result, absurd, -⟩ := map_eq_done same
      cases absurd
  · rw [← List.singleton_append, ← List.append_assoc] at own
    obtain ⟨result, rfl, ends⟩ := h.late_reply own (fun t => List.mem_append_left _) found
    constructor
    · intro c same
      cases map_eq_crash same
    · intro a same
      obtain ⟨value, this, rfl⟩ := map_eq_done same
      cases this
      exact ends

/-- **One decision per request**, in every pool that calls can come to from any store. A request that
was pending at the start is decided at most once and nobody is told otherwise; a decision through the
link that has found its request pending does not crash, and ends because it decided, because somebody
else had, because the token was used or ran out, or because the store was down. -/
theorem one_decision_per_request (s : Settings) (calls : ι → Call) (w : World) (p : Pool ι)
    (run : Reachable (start s calls w) p) :
    (∀ id r, w.store.requests.find? id = some r → r.status = .pending → OneDecision calls p id) ∧
      ∀ i id supplied d, calls i = .process id supplied d → FoundPending s p i id supplied →
        (∀ c, p.left i ≠ .crash c) ∧ ∀ a, p.left i = .done a → LateEnd s p i id supplied d a := by
  have explained := consistent run
  constructor
  · intro id r found pending
    exact explained.oneDecision found pending
  · intro i id supplied d call found
    exact explained.lateEnd call found

/-! ## A race -/

/-- Whoever holds the link approves Ann's request while an administrator rejects it. -/
def rivals : Bool → Call
  | true => .process "r1" "abc" .approve
  | false => .processViaPanel "r1" (.reject "no receipt") "bob"

/-- A validity of five seconds. -/
def shortValidity : Settings := ⟨"", "", 5000, "", none⟩

/-- The inspection of the link comes first, then the whole call in the panel, then the rest. -/
def race : Pool Bool :=
  [true, true, true, false, false, false, true, true].foldl turn
    (start shortValidity rivals World.withAnnsRequest)

/-- The link has found the request pending, and is told in the end that it was rejected. -/
theorem link_comes_too_late :
    OneDecision rivals race "r1" ∧
      race.left true = .done (.decided (.ok (.alreadyProcessed .rejected))) ∧
      LateEnd shortValidity race true "r1" "abc" .approve
        (.decided (.ok (.alreadyProcessed .rejected))) := by
  have run : Reachable (start shortValidity rivals World.withAnnsRequest) race := reachable_turns _ _
  have found : FoundPending shortValidity race true "r1" "abc" :=
    ⟨World.annsRequest, (ownTurns true race.log).take 3, (ownTurns true race.log).drop 3,
      (List.take_append_drop 3 _).symm, .turn (.turn (.turn (.here _)))⟩
  have ended : race.left true = .done (.decided (.ok (.alreadyProcessed .rejected))) := rfl
  obtain ⟨once, late⟩ :=
    one_decision_per_request shortValidity rivals World.withAnnsRequest race run
  obtain ⟨-, ends⟩ := late true "r1" "abc" .approve rfl found
  exact ⟨once "r1" World.annsRequest rfl rfl, ended, ends _ ended⟩

end ApprovalDesk.Pool
