import ApprovalDesk.Database.Store
import ApprovalDesk.Proofs.Dialogue.Turns

/-!
# Transactions as a whole

Whatever a database answers, and wherever a script is cut short, a transaction has kept nothing or all of
what was carried out in it: nothing before its end is answered, nothing if anything fails, and all of it
if it ends with a commit. So a submission is kept with its token or not at all, and a decision with the
token that it uses up.
-/

namespace ApprovalDesk.Database

set_option autoImplicit false

open ApprovalDesk.Time ApprovalDesk.Dialogue

variable {α β : Type}

/-! ## Connections -/

/-- A statement to a database with the reply to it. -/
abbrev Turn := Dialogue.Turn Statement fun _ => Reply

/-- What a database has carried out for a script: what it keeps, and what it has not kept yet, if a
transaction is open. -/
@[ext]
structure Connection where
  kept : List Statement
  draft : Option (List Statement)

namespace Connection

/-- A statement is carried out. Without a transaction it is kept at once. -/
def carryOut (c : Connection) (s : Statement) : Connection :=
  if s.sql = "BEGIN" then { c with draft := some [] }
  else if s.sql = "COMMIT" then ⟨c.kept ++ c.draft.getD [], none⟩
  else if s.sql = "ROLLBACK" then { c with draft := none }
  else match c.draft with
    | some draft => { c with draft := some (draft ++ [s]) }
    | none => ⟨c.kept ++ [s], none⟩

/-- A statement is answered. One that fails has no effect. -/
def turn (c : Connection) (t : Turn) : Connection :=
  match t.reply with
  | .ok (.ok _) => c.carryOut t.question
  | .ok (.error _) | .error _ => c

/-- Statements are answered one after another. -/
def after (c : Connection) (turns : List Turn) : Connection := turns.foldl turn c

@[simp] theorem after_nil (c : Connection) : c.after [] = c := rfl

@[simp] theorem after_cons (c : Connection) (t : Turn) (turns : List Turn) :
    c.after (t :: turns) = (c.turn t).after turns := rfl

@[simp] theorem after_append (c : Connection) (turns later : List Turn) :
    c.after (turns ++ later) = (c.after turns).after later := List.foldl_append

end Connection

/-- The statements among the turns that were carried out. -/
def carriedOut : List Turn → List Statement
  | [] => []
  | ⟨s, .ok (.ok _)⟩ :: turns => s :: carriedOut turns
  | ⟨_, .ok (.error _)⟩ :: turns | ⟨_, .error _⟩ :: turns => carriedOut turns

theorem carriedOut_append (turns later : List Turn) :
    carriedOut (turns ++ later) = carriedOut turns ++ carriedOut later := by
  induction turns with
  | nil => rfl
  | cons t turns ih =>
    obtain ⟨s, crash | failed | answer⟩ := t
    · exact ih
    · exact ih
    · exact congrArg (s :: ·) ih

/-! ## Attempts in parts -/

/-- An attempt in two parts has come to a success of the first part and is in the second, or there has
been no success. -/
theorem attempt_cases {x : Attempt α} {f : α → Attempt β} {turns : List Turn}
    {rest : Script (Except StoreError β)} (leads : Leads (x >>= f).run turns rest) :
    (∃ y, Leads x.run turns y ∧ (∀ a, y ≠ .done (.ok a)) ∧ ∀ b, rest ≠ .done (.ok b)) ∨
      ∃ a first second, turns = first ++ second ∧ Leads x.run first (.done (.ok a)) ∧
        Leads (f a).run second rest := by
  rw [ExceptT.run_bind] at leads
  rcases leads.bind_cases with ⟨y, front, unfinished, whole⟩ | ⟨result, first, second, split, front, back⟩
  · exact .inl ⟨y, front, fun a => unfinished _, fun b => whole ▸ bind_ne_done unfinished _ _⟩
  · cases result with
    | error e =>
      cases back with
      | here =>
        refine .inl ⟨.done (.error e), ?_, fun a => nofun, fun b => nofun⟩
        rwa [split, List.append_nil]
    | ok a => exact .inr ⟨a, first, second, split, front, back⟩

/-- An attempt in two parts that has succeeded has done so in both. -/
theorem attempt_ok {x : Attempt α} {f : α → Attempt β} {turns : List Turn} {b : β}
    (leads : Leads (x >>= f).run turns (.done (.ok b))) :
    ∃ a first second, turns = first ++ second ∧ Leads x.run first (.done (.ok a)) ∧
      Leads (f a).run second (.done (.ok b)) := by
  rcases attempt_cases leads with ⟨y, -, -, unsuccessful⟩ | both
  · exact absurd rfl (unsuccessful b)
  · exact both

section Statements

variable {key sql : String} {parameters : List Value} {turns : List Turn}

/-- An attempt that consists of one statement has succeeded only if that was carried out. -/
theorem turns_of_statement {s : Statement} {g : Reply → Except StoreError α} {a : α}
    (fails : ∀ e, g (.error e) ≠ .ok a) (leads : Leads (.ask s fun r => .done (g r)) turns (.done (.ok a))) :
    ∃ answer, turns = [⟨s, .ok (.ok answer)⟩] := by
  generalize ended : (Dialogue.done (.ok a) : Script (Except StoreError α)) = y at leads
  cases leads with
  | here => cases ended
  | @turn _ _ reply _ _ later =>
    obtain crash | failed | answer := reply
    all_goals cases later
    · cases ended
    · exact absurd (Dialogue.done.inj ended).symm (fails failed)
    · exact ⟨answer, rfl⟩

theorem turns_of_performed {a : Answer} (leads : Leads (perform sql parameters).run turns (.done (.ok a))) :
    ∃ answer, turns = [⟨⟨sql, parameters⟩, .ok (.ok answer)⟩] :=
  turns_of_statement (fun _ succeeded => by cases succeeded) leads

theorem turns_of_inserted {a : Unit} (leads : Leads (insert key sql parameters).run turns (.done (.ok a))) :
    ∃ answer, turns = [⟨⟨sql, parameters⟩, .ok (.ok answer)⟩] :=
  turns_of_statement (fun _ succeeded => by cases succeeded) leads

theorem turns_of_selected {read : Row → Except DatabaseError α} {found : Option α}
    (leads : Leads (select read sql parameters).run turns (.done (.ok found))) :
    ∃ answer, turns = [⟨⟨sql, parameters⟩, .ok (.ok answer)⟩] ∧ record? read answer = .ok found := by
  obtain ⟨answer, first, later, rfl, performed, reads⟩ := attempt_ok leads
  generalize ended : (Dialogue.done (.ok found) : Script (Except StoreError (Option α))) = y at reads
  cases reads
  obtain ⟨other, rfl⟩ := turns_of_performed performed
  cases performed with
  | turn told =>
    cases told
    exact ⟨answer, rfl, (Dialogue.done.inj ended).symm⟩

/-- A statement that has not succeeded has changed nothing. -/
theorem after_of_unperformed {rest : Script (Except StoreError Answer)}
    (leads : Leads (perform sql parameters).run turns rest) (unsuccessful : ∀ a, rest ≠ .done (.ok a))
    (c : Connection) : c.after turns = c := by
  cases leads with
  | here => rfl
  | @turn _ _ reply _ _ later =>
    obtain crash | failed | answer := reply
    all_goals cases later
    · rfl
    · rfl
    · exact absurd rfl (unsuccessful answer)

end Statements

/-! ## What may stand in a transaction -/

/-- A statement that neither begins nor ends a transaction. -/
def IsPlain (sql : String) : Prop := sql ≠ "BEGIN" ∧ sql ≠ "COMMIT" ∧ sql ≠ "ROLLBACK"

instance (sql : String) : Decidable (IsPlain sql) := inferInstanceAs (Decidable (_ ∧ _ ∧ _))

/-- Whatever the replies are, a script leaves the transaction that it stands in open, unless it gives it
up and crashes. -/
inductive Contained : Script α → Prop where
  | done (a : α) : Contained (.done a)
  | ask {s : Statement} {next : Reply → Script α} (plain : IsPlain s.sql) (rest : ∀ r, Contained (next r)) :
      Contained (.ask s next)
  | givenUp (c : Crash) : Contained (.ask ⟨"ROLLBACK", []⟩ fun _ => .crash c)

namespace Contained

theorem bind {x : Attempt α} {f : α → Attempt β} (first : Contained x.run)
    (second : ∀ a, Contained (f a).run) : Contained (x >>= f).run := by
  rw [ExceptT.run_bind]
  generalize x.run = y at first
  induction first with
  | done result =>
    cases result with
    | error e => exact .done _
    | ok a => exact second a
  | ask plain _ ih => exact .ask plain ih
  | givenUp c => exact .givenUp c

theorem perform {sql : String} {parameters : List Value} (plain : IsPlain sql) :
    Contained (perform sql parameters).run :=
  .ask plain fun _ => .done _

theorem insert {key sql : String} {parameters : List Value} (plain : IsPlain sql) :
    Contained (insert key sql parameters).run :=
  .ask plain fun _ => .done _

theorem select {read : Row → Except DatabaseError α} {sql : String} {parameters : List Value}
    (plain : IsPlain sql) : Contained (select read sql parameters).run :=
  (perform plain).bind fun _ => .done _

/-- In a transaction nothing is kept, and what is carried out is added to its draft. -/
theorem after {x y : Script α} {turns : List Turn} (contained : Contained x) (leads : Leads x turns y)
    {c : Connection} {draft : List Statement} (opened : c.draft = some draft) :
    (c.after turns).kept = c.kept ∧
      ((∃ cause, y = .crash cause) ∨ (c.after turns).draft = some (draft ++ carriedOut turns)) := by
  induction leads generalizing c draft with
  | here x => exact ⟨rfl, .inr (opened.trans (congrArg some (List.append_nil draft).symm))⟩
  | @turn s next reply turns y later ih =>
    cases contained with
    | ask plain rest =>
      obtain crash | failed | answer := reply
      · cases later
        exact ⟨rfl, .inl ⟨crash, rfl⟩⟩
      · exact ih (rest _) opened
      · have added : (c.turn ⟨s, .ok (.ok answer)⟩) = { c with draft := some (draft ++ [s]) } := by
          obtain ⟨begins, commits, rollsBack⟩ := plain
          change c.carryOut s = _
          rw [Connection.carryOut, if_neg begins, if_neg commits, if_neg rollsBack, opened]
        have whole := ih (rest _) (c := { c with draft := some (draft ++ [s]) }) rfl
        rw [Connection.after_cons, added]
        refine ⟨whole.1, whole.2.imp_right fun drafted => drafted.trans (congrArg some ?_)⟩
        exact List.append_assoc draft [s] (carriedOut turns)
    | givenUp cause =>
      obtain crash | failed | answer := reply
      all_goals
        cases later
        exact ⟨rfl, .inl ⟨_, rfl⟩⟩

end Contained

/-! ## Transactions -/

/-- The statement that ends a transaction. -/
def Ending.sql : Ending → String
  | .commit => "COMMIT"
  | .rollback => "ROLLBACK"

/-- A body between the beginning and the end of a transaction. -/
def bracketed (body : Attempt (Ending × α)) : Attempt α := do
  let _ ← perform "BEGIN" []
  let (ending, value) ← body
  let _ ← perform ending.sql []
  return value

theorem transaction_eq (body : Attempt (Ending × α)) : transaction body = ExceptT.mk do
    match ← (bracketed body).run with
    | .ok value => return .ok value
    | .error e =>
      abandon
      return .error e := by
  unfold transaction bracketed
  congr

/-- What has been kept by a transaction that has got as far as `rest`. -/
inductive Keeps (body : Attempt (Ending × α)) (c : Connection) (turns : List Turn) :
    Script (Except StoreError α) → Prop where
  /-- It has not succeeded, or not yet. -/
  | nothing {rest : Script (Except StoreError α)} (unsuccessful : ∀ a, rest ≠ .done (.ok a))
      (same : (c.after turns).kept = c.kept) : Keeps body c turns rest
  | rolledBack {a : α} {inner : List Turn} (ran : Leads body.run inner (.done (.ok (.rollback, a))))
      (within : inner <:+: turns) (same : c.after turns = ⟨c.kept, none⟩) :
      Keeps body c turns (.done (.ok a))
  | committed {a : α} {inner : List Turn} (ran : Leads body.run inner (.done (.ok (.commit, a))))
      (within : inner <:+: turns) (all : c.after turns = ⟨c.kept ++ carriedOut inner, none⟩) :
      Keeps body c turns (.done (.ok a))

section

variable {body : Attempt (Ending × α)} {turns : List Turn} {rest : Script (Except StoreError α)}
  (contained : Contained body.run)

include contained

theorem keeps_bracketed (leads : Leads (bracketed body).run turns rest) (c : Connection) :
    Keeps body c turns rest := by
  rcases attempt_cases leads with ⟨y, front, unbegun, unsuccessful⟩ | ⟨_, first, later, rfl, begun, back⟩
  · exact .nothing unsuccessful (congrArg Connection.kept (after_of_unperformed front unbegun c))
  obtain ⟨_, rfl⟩ := turns_of_performed begun
  rcases attempt_cases back with ⟨y, front, -, unsuccessful⟩ | ⟨⟨ending, a⟩, inner, last, rfl, ran, back⟩
  · exact .nothing unsuccessful (contained.after front (c := ⟨c.kept, some []⟩) rfl).1
  have drafted : (⟨c.kept, some []⟩ : Connection).after inner = ⟨c.kept, some (carriedOut inner)⟩ := by
    obtain ⟨same, crashed | drafted⟩ := contained.after ran (c := ⟨c.kept, some []⟩) rfl
    · obtain ⟨cause, crashed⟩ := crashed
      cases crashed
    · exact Connection.ext same drafted
  have begun : ∀ answer, c.after (⟨⟨"BEGIN", []⟩, .ok (.ok answer)⟩ :: (inner ++ last)) =
      (⟨c.kept, some (carriedOut inner)⟩ : Connection).after last := by
    intro answer
    rw [← drafted, ← Connection.after_append]
    rfl
  rcases attempt_cases back with ⟨y, front, unended, unsuccessful⟩ | ⟨_, ends, nothing, rfl, ended, returned⟩
  · refine .nothing unsuccessful ?_
    rw [List.singleton_append, begun, after_of_unperformed front unended]
  obtain ⟨_, rfl⟩ := turns_of_performed ended
  cases returned
  have within (before after : Turn) : inner <:+: [before] ++ (inner ++ ([after] ++ [])) :=
    ⟨[before], [after], List.append_assoc ..⟩
  cases ending with
  | rollback => exact .rolledBack ran (within _ _) (begun _)
  | commit => exact .committed ran (within _ _) (begun _)

/-- **A transaction is kept as a whole or not at all**, whatever is answered and wherever it is cut
short. -/
theorem transaction_is_whole (leads : Leads (transaction body).run turns rest) (c : Connection) :
    Keeps body c turns rest := by
  rw [transaction_eq] at leads
  rcases leads.bind_cases with ⟨y, front, unfinished, whole⟩ | ⟨result, first, second, rfl, front, back⟩
  · cases keeps_bracketed contained front c with
    | nothing _ same => exact .nothing (fun a => whole ▸ bind_ne_done unfinished _ _) same
    | rolledBack | committed => exact absurd rfl (unfinished _)
  · cases result with
    | ok a =>
      cases back
      rw [List.append_nil]
      exact keeps_bracketed contained front c
    | error e =>
      cases keeps_bracketed contained front c with
      | nothing _ same =>
        -- what is left to do is to roll back, which keeps nothing more
        cases back with
        | here => exact .nothing (fun a => nofun) (by rwa [List.append_nil])
        | @turn _ _ reply _ _ later =>
          obtain crash | failed | answer := reply
          all_goals
            cases later
            refine .nothing (fun a => nofun) ?_
            rw [Connection.after_append]
            exact same

end

/-! ## Submissions -/

/-- What a submission does in its transaction. -/
def submitting (r : Request) (t : Token) : Attempt (Ending × Unit) := do
  insertRequest r
  insert r.id insertTokenSql (newTokenValues t)
  return (.commit, ())

theorem insertSubmission_eq (r : Request) (t : Token) :
    insertSubmission r t = transaction (submitting r t) := rfl

theorem contained_submitting (r : Request) (t : Token) : Contained (submitting r t).run := by
  refine .bind (.insert ?_) fun _ => .bind (.insert ?_) fun _ => .done _
  · decide
  · decide

/-- **A submission is kept with its token or not at all.** Both are there if it has succeeded, and neither
otherwise. -/
theorem submission_is_whole (r : Request) (t : Token) {turns : List Turn}
    {rest : Script (Except StoreError Unit)} (leads : Leads (insertSubmission r t).run turns rest)
    (c : Connection) :
    (rest ≠ .done (.ok ()) ∧ (c.after turns).kept = c.kept) ∨
      rest = .done (.ok ()) ∧ c.after turns = ⟨c.kept ++ [⟨insertRequestSql, newRequestValues r⟩,
        ⟨insertTokenSql, newTokenValues t⟩], none⟩ := by
  rw [insertSubmission_eq] at leads
  cases transaction_is_whole (contained_submitting r t) leads c with
  | nothing unsuccessful same => exact .inl ⟨unsuccessful (), same⟩
  | rolledBack ran =>
    obtain ⟨_, first, later, -, -, back⟩ := attempt_ok ran
    obtain ⟨_, second, last, -, -, returned⟩ := attempt_ok back
    cases returned
  | committed ran _ all =>
    obtain ⟨_, first, later, rfl, request, back⟩ := attempt_ok ran
    obtain ⟨_, second, last, rfl, token, returned⟩ := attempt_ok back
    obtain ⟨_, rfl⟩ := turns_of_inserted request
    obtain ⟨_, rfl⟩ := turns_of_inserted token
    cases returned
    exact .inr ⟨rfl, all⟩

/-! ## Decisions -/

section Decision

variable (id : String) (decision : Decision) (actor : Actor) (guard : Option Guard) (now : Instant)

/-- What a decision does once both records are read and locked. -/
def settling (request : Option Request) (token : Option Token) : Attempt (Ending × CommitOutcome) :=
  match plan request token decision actor guard now with
  | .error cause => do
    abandon
    (Dialogue.crash cause : Script _)
  | .ok (.error cause) => return (.rollback, .refused cause)
  | .ok (.ok next) => do
    let after ← writeDecided id next
    let _ ← markTokenUsed id now
    return (.commit, .committed .pending after)

/-- What a decision does in its transaction. -/
def deciding : Attempt (Ending × CommitOutcome) := do
  let request ← select requestOfRow (forUpdate selectRequestSql) [.text id]
  let token ← select tokenOfRow (forUpdate selectTokenSql) [.text id]
  settling id decision actor guard now request token

theorem commit_eq :
    commit id decision actor guard now = transaction (deciding id decision actor guard now) := by
  rfl

theorem contained_settling (request : Option Request) (token : Option Token) :
    Contained (settling id decision actor guard now request token).run := by
  unfold settling
  split
  · exact .givenUp _
  · exact .done _
  · refine .bind (.bind (.select ?_) fun written => ?_) fun _ => .bind ?_ fun _ => .done _
    · decide
    · cases written with
      | none => exact .done _
      | some after => exact .done _
    · exact .bind (.perform (by decide)) fun _ => .done _

/-- A decision that has come to an end of its transaction has been refused, or has written both records. -/
theorem settling_ok {request : Option Request} {token : Option Token} {turns : List Turn} {ending : Ending}
    {outcome : CommitOutcome}
    (ran : Leads (settling id decision actor guard now request token).run turns
      (.done (.ok (ending, outcome)))) :
    (ending = .rollback ∧ ∃ cause, outcome = .refused cause) ∨
      ending = .commit ∧ ∃ next after, plan request token decision actor guard now = .ok (.ok next) ∧
        outcome = .committed .pending after ∧ carriedOut turns = [
          ⟨updateRequestSql, decidedRequestValues id next⟩,
          ⟨markTokenUsedSql, [.text id, instantValue now]⟩] := by
  unfold settling at ran
  split at ran
  · cases ran with
    | @turn _ _ reply _ _ crashed => cases reply <;> cases crashed
  · cases ran
    exact .inl ⟨rfl, _, rfl⟩
  · next decided planned =>
    obtain ⟨after, first, later, rfl, written, back⟩ := attempt_ok ran
    obtain ⟨_, second, last, rfl, marked, returned⟩ := attempt_ok back
    obtain ⟨row, selected, nothing, rfl, updated, found⟩ := attempt_ok written
    obtain ⟨_, performed, no, rfl, usedUp, told⟩ := attempt_ok marked
    obtain ⟨_, rfl, -⟩ := turns_of_selected updated
    obtain ⟨_, rfl⟩ := turns_of_performed usedUp
    cases told
    cases returned
    cases row with
    | none => cases found
    | some row =>
      cases found
      exact .inr ⟨rfl, decided, _, planned, rfl, rfl⟩

theorem contained_deciding : Contained (deciding id decision actor guard now).run := by
  refine .bind (.select ?_) fun request => .bind (.select ?_) fun token => ?_
  · decide
  · decide
  · exact contained_settling id decision actor guard now request token

/-- **A decision is kept with the token that it uses up or not at all.** Both records are written if it is
reported as carried out, as the plan says for the records that were read. If it is refused, fails or is cut
short, nothing is kept. -/
theorem decision_is_whole {turns : List Turn} {rest : Script (Except StoreError CommitOutcome)}
    (leads : Leads (commit id decision actor guard now).run turns rest) (c : Connection) :
    ((∀ before after, rest ≠ .done (.ok (.committed before after))) ∧ (c.after turns).kept = c.kept) ∨
      ∃ requestAnswer tokenAnswer request token next after,
        ⟨⟨forUpdate selectRequestSql, [.text id]⟩, .ok (.ok requestAnswer)⟩ ∈ turns ∧
        ⟨⟨forUpdate selectTokenSql, [.text id]⟩, .ok (.ok tokenAnswer)⟩ ∈ turns ∧
        record? requestOfRow requestAnswer = .ok request ∧ record? tokenOfRow tokenAnswer = .ok token ∧
        plan request token decision actor guard now = .ok (.ok next) ∧
        rest = .done (.ok (.committed .pending after)) ∧ c.after turns = ⟨c.kept ++ [
          ⟨forUpdate selectRequestSql, [.text id]⟩,
          ⟨forUpdate selectTokenSql, [.text id]⟩,
          ⟨updateRequestSql, decidedRequestValues id next⟩,
          ⟨markTokenUsedSql, [.text id, instantValue now]⟩], none⟩ := by
  rw [commit_eq] at leads
  cases transaction_is_whole (contained_deciding id decision actor guard now) leads c with
  | nothing unsuccessful same => exact .inl ⟨fun before after => unsuccessful _, same⟩
  | rolledBack ran _ same =>
    obtain ⟨request, first, later, rfl, -, back⟩ := attempt_ok ran
    obtain ⟨token, second, last, rfl, -, settled⟩ := attempt_ok back
    rcases settling_ok id decision actor guard now settled with ⟨-, cause, rfl⟩ | ⟨commits, -⟩
    · exact .inl ⟨fun before after => nofun, by rw [same]⟩
    · cases commits
  | committed ran within all =>
    obtain ⟨request, first, later, rfl, locked, back⟩ := attempt_ok ran
    obtain ⟨token, second, last, rfl, lockedToo, settled⟩ := attempt_ok back
    obtain ⟨requestAnswer, rfl, readsRequest⟩ := turns_of_selected locked
    obtain ⟨tokenAnswer, rfl, readsToken⟩ := turns_of_selected lockedToo
    rcases settling_ok id decision actor guard now settled with
      ⟨rollsBack, -⟩ | ⟨-, next, after, planned, rfl, written⟩
    · cases rollsBack
    · refine .inr ⟨requestAnswer, tokenAnswer, request, token, next, after, within.subset (by simp),
        within.subset (by simp), readsRequest, readsToken, planned, rfl, all.trans ?_⟩
      rw [carriedOut_append, carriedOut_append, written]
      rfl

end Decision

end ApprovalDesk.Database
