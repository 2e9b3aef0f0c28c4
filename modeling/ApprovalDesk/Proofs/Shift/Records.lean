import ApprovalDesk.Proofs.Shift.Basic
import ApprovalDesk.Proofs.Store.WellFormed

/-!
# Records stay well formed

Whatever jobs a shift consists of, in whatever weather, everything on record at its end is well formed if
nothing was on record when it began. Every deed keeps the records well formed, and every handled event
does; the shift follows by induction.
-/

namespace ApprovalDesk.Shift

set_option autoImplicit false

open ApprovalDesk.Text ApprovalDesk.Workflow

/-- A job keeps the records well formed if its decision names a reason. -/
theorem wellFormed_job {x y : Shift} {j : Job} (outcome : x.JobOutcome j y)
    (considered : ∀ c sky, j = .call c sky → c.Considered) (h : x.store.WellFormed) :
    y.store.WellFormed := by
  cases outcome with
  | served service explains store =>
    rw [Shift.store, store]
    exact h.deed explains (considered _ _ rfl)
  | told _ aftermath => exact h.aftermath aftermath
  | idle => exact h
  | dispatched _ aftermath => exact h.aftermath aftermath

/-- **Records stay well formed**, in every shift that begins with an empty store and in which every
rejection names a trimmed reason. -/
theorem records_stay_wellFormed (s : Settings) (w : World) (js : List Job)
    (considered : ∀ c sky, .call c sky ∈ js → c.Considered) :
    ((opening { w with store := .empty }).jobs s js).store.WellFormed := by
  refine jobs_keep (fun x => x.store.WellFormed) ?_ Store.wellFormed_empty
  intro x j member h
  refine wellFormed_job (x.job_outcome s j) ?_ h
  rintro c sky rfl
  exact considered c sky member

/-- Ann submits a request, and Bob rejects it in the panel. -/
def rejection : List Job :=
  [.call (.submit ⟨"u1", "Ann", "ann@example.org", none, none⟩) .fair,
    .call (.processViaPanel "00000000-0000-0000-0000-000000000000" (.reject "no receipt") " Bob ")
      .fair]

/-- The record of Ann's request at the end of the shift. -/
theorem rejection_is_on_record :
    let x := (opening (World.quiet .empty ⟨0, 0⟩)).jobs ⟨"", "", 5000, "", none⟩ rejection
    x.store.WellFormed ∧ ∃ r, x.store.requests.find? "00000000-0000-0000-0000-000000000000" = some r ∧
      r.status = .rejected ∧ r.rejectedBy = some "Bob" := by
  refine ⟨records_stay_wellFormed ⟨"", "", 5000, "", none⟩ (World.quiet .empty ⟨0, 0⟩) rejection ?_,
    _, rfl, rfl, rfl⟩
  intro c sky member
  rcases List.mem_cons.1 member with first | second
  · cases first
    exact trivial
  · cases List.mem_singleton.1 second
    exact Or.inr ⟨" no receipt ", rfl⟩

end ApprovalDesk.Shift
