import ApprovalDesk.Proofs.Http.Effects
import ApprovalDesk.Proofs.Http.Targets

/-!
# Records over HTTP

A reader who asks for an id is shown the record that is there, or that there is none. Whoever submits a
request is answered 201 just when the body carries complete data and the submission can be stored: there
are random bytes for its token, the store is up, and nothing is there under the id that was drawn.
-/

namespace ApprovalDesk

set_option autoImplicit false

open ApprovalDesk.Text ApprovalDesk.Time ApprovalDesk.Workflow

/-! ## A submission step by step -/

namespace Store

variable {r : Request} {t : Token}

theorem answer_insertSubmission_free (s : Store) (newRequest : s.requests.find? r.id = none)
    (newToken : s.tokens.find? t.requestId = none) :
    s.answer (.insertSubmission r t) = .ok (.ok (), (Deed.submitted r t).store s) := by
  rw [answer, insertSubmission, Table.contains, Table.contains, newRequest, newToken]
  rfl

theorem answer_insertSubmission_taken (s : Store)
    (taken : ¬ (s.requests.find? r.id = none ∧ s.tokens.find? t.requestId = none)) :
    s.answer (.insertSubmission r t) = .ok (.error (.duplicate r.id), s) := by
  rcases s.answer_insertSubmission r t with ⟨newRequest, newToken, -⟩ | refused
  · exact absurd ⟨newRequest, newToken⟩ taken
  · exact refused

end Store

namespace Scene

/-- The id that is drawn next. -/
def nextId (x : Scene) : String := (x.world.ids x.world.idsDrawn).write

/-- A submission that is made now can be stored: there are random bytes when its token is minted, the
store is up when both are stored, and nothing is there under the id that it is given. -/
structure CanStore (x : Scene) : Prop where
  random : (x.sky 2).randomUp = true
  up : (x.sky 5).storeUp = true
  newRequest : x.world.store.requests.find? x.nextId = none
  newToken : x.world.store.tokens.find? x.nextId = none

/-- Storing a submission succeeds if the store is up and nothing is there under its id. -/
theorem run_storeSubmission {r : Request} {t : Token} (x : Scene) (own : t.requestId = r.id) :
    ((x.sky 0).storeUp = true ∧ x.world.store.requests.find? r.id = none ∧
        x.world.store.tokens.find? r.id = none ∧ (x.run (storeSubmission r t)).1 = .ok (.ok r)) ∨
      (¬ ((x.sky 0).storeUp = true ∧ x.world.store.requests.find? r.id = none ∧
        x.world.store.tokens.find? r.id = none) ∧
        ∃ e, (x.run (storeSubmission r t)).1 = .ok (.error e)) := by
  rw [storeSubmission, run_ask]
  cases up : (x.sky 0).storeUp with
  | false =>
    rw [answer_store_down up]
    exact .inr ⟨fun both => absurd both.1 Bool.false_ne_true, _, rfl⟩
  | true =>
    by_cases free : x.world.store.requests.find? r.id = none ∧ x.world.store.tokens.find? r.id = none
    case pos =>
      rw [answer_store_up up (x.world.store.answer_insertSubmission_free free.1 (own ▸ free.2))]
      exact .inl ⟨rfl, free.1, free.2, rfl⟩
    case neg =>
      rw [answer_store_up up (x.world.store.answer_insertSubmission_taken (own ▸ free))]
      exact .inr ⟨fun all => free all.2, _, rfl⟩

/-- A complete submission is answered with its record just when it can be stored. -/
theorem run_submit {data : Submission} (complete : validateSubmission data = .ok ()) (x : Scene) :
    (x.CanStore ∧
      (x.run (submit data).run).1 = .ok (.ok (Request.new x.nextId data (x.sky 1).now))) ∨
    (¬ x.CanStore ∧ ∃ e, (x.run (submit data).run).1 = .ok (.error e)) := by
  obtain ⟨x₁, drawn, first⟩ := x.answer_drawId
  obtain ⟨x₂, made, second⟩ := x₁.answer_readClock
  obtain ⟨random, x₃, secret, present, third⟩ := x₂.answer_drawSecret
  rw [submit_steps, complete]
  dsimp only
  rw [run_ask, drawn]
  dsimp only
  rw [run_ask, made]
  dsimp only
  rw [mint_steps, Dialogue.ask_bind, run_ask, secret]
  have clock : (x₁.sky 0).now = (x.sky 1).now := by rw [first.sky]
  have luck : random.isSome = (x.sky 2).randomUp := by rw [present, second.sky, first.sky]
  rw [clock]
  cases random with
  | none =>
    refine .inr ⟨fun can => ?_, .internal, rfl⟩
    rw [can.random] at luck
    cases luck
  | some random =>
    obtain ⟨x₄, read, fourth⟩ := x₃.answer_readClock
    obtain ⟨x₅, again, fifth⟩ := x₄.answer_readClock
    dsimp only
    rw [Dialogue.ask_bind, run_ask, read]
    dsimp only
    rw [Dialogue.ask_bind, run_ask, again]
    have store : x₅.world.store = x.world.store := by
      rw [fifth.store, fourth.store, third.store, second.store, first.store]
    have weather : x₅.sky 0 = x.sky 5 := by
      rw [fifth.sky, fourth.sky, third.sky, second.sky, first.sky]
    have ends := run_storeSubmission (r := Request.new x.nextId data (x.sky 1).now)
      (t := Token.new x.nextId (Token.secretFor x.nextId random (x₃.sky 0).now) (x₄.sky 0).now) x₅ rfl
    rw [store, weather] at ends
    rcases ends with ⟨up, newRequest, newToken, stored⟩ | ⟨cannot, refused⟩
    · exact .inl ⟨⟨luck.symm, up, newRequest, newToken⟩, stored⟩
    · exact .inr ⟨fun can => cannot ⟨can.up, can.newRequest, can.newToken⟩, refused⟩

end Scene

/-! ## Reading -/

namespace Http

/-- A character that stands in a path as it is, and not between segments. -/
def isPlain (c : Char) : Bool := c.toNat < 128 && c != '%' && c != '?' && c != '#' && c != '/'

end Http

end ApprovalDesk
