import ApprovalDesk.Proofs.Weather.AllOrNothing
import ApprovalDesk.Proofs.Workflow.Deeds

/-!
# Calls do one thing or nothing

Every call to the workflow has at most one call to the store carried out, as the last thing it does
before it announces it and answers. `Call.Tells` lists the five that can be, each with the answer that
tells of it; any other answer, a failure in particular, means that nothing was carried out.
-/

namespace ApprovalDesk

set_option autoImplicit false

open ApprovalDesk.Text ApprovalDesk.Time ApprovalDesk.Dialogue ApprovalDesk.Workflow
open ApprovalDesk.Flow (AllOrNothing)

/-- A call to the workflow or its tokens, and not to the dispatcher. -/
def Call.isService : Call → Bool
  | .handle _ => false
  | .submit _ | .find _ | .inspect .. | .validate .. | .issue _ | .markUsed _ | .process ..
  | .processViaPanel .. => true

/-- The answer to a call tells what the store carried out for it, and what the store replied. -/
inductive Call.Tells (ttl : Int) :
    Call → Answer → (call : StoreCall) → Except StoreError call.Result → Prop where
  | submitted {data : Submission} {id secret : String} {now later : Instant}
      (complete : validateSubmission data = .ok ()) :
      Tells ttl (.submit data) (.submitted (.ok (Request.new id data now)))
        (.insertSubmission (Request.new id data now) (Token.new id secret later)) (.ok ())
  | issued {id secret : String} {now : Instant} :
      Tells ttl (.issue id) (.issued (.ok secret)) (.insertToken (Token.new id secret now)) (.ok true)
  | marked {id : String} {now : Instant} :
      Tells ttl (.markUsed id) (.marked (.ok true)) (.markTokenUsed id now) (.ok true)
  | link {id supplied : String} {d : Decision} {now : Instant} {before : Status} {after : Request} :
      Tells ttl (.process id supplied d) (.decided (.ok (.processed after)))
        (.commit id d .emailLink (some ⟨supplied, ttl⟩) now) (.ok (.committed before after))
  | panel {id adminId : String} {d : Decision} {now : Instant} {before : Status} {after : Request}
      (named : (trim adminId).isEmpty = false) :
      Tells ttl (.processViaPanel id d adminId) (.decided (.ok (.processed after)))
        (.commit id d (.panel (trim adminId)) none now) (.ok (.committed before after))

namespace Workflow

/-- A submission stores its request and its token in one call to the store. -/
theorem submit_allOrNothing (ttl : Int) (data : Submission) :
    AllOrNothing (fun result => (Answer.submitted result).claims = false)
      (fun result => Call.Tells ttl (.submit data) (.submitted result)) (submit data).run := by
  rw [submit_steps]
  cases complete : validateSubmission data with
  | error e => exact .done rfl
  | ok _ =>
    refine .look rfl fun id => .look rfl fun now => ?_
    rw [mint_steps, ask_bind]
    refine .look rfl fun random => ?_
    cases random with
    | none => exact .done rfl
    | some random =>
      refine .look rfl fun drawn => .look rfl fun later => .call ?_ ?_
      · rintro (e | _) unconfirmed
        · exact .done rfl
        · cases unconfirmed
      · rintro (e | _) confirmed
        · cases confirmed
        · exact ⟨_, rfl, .submitted complete⟩

/-- A token is issued by one call to the store. -/
theorem issue_allOrNothing (ttl : Int) (id : String) :
    AllOrNothing (fun result => (Answer.issued result).claims = false)
      (fun result => Call.Tells ttl (.issue id) (.issued result)) (issue id).run := by
  rw [issue_steps, mint_steps, ask_bind]
  refine .look rfl fun random => ?_
  cases random with
  | none => exact .done rfl
  | some random =>
    refine .look rfl fun drawn => .look rfl fun later => .call ?_ ?_
    · rintro (e | _ | _) unconfirmed
      · exact .done rfl
      · exact .done rfl
      · cases unconfirmed
    · rintro (e | _ | _) confirmed
      · cases confirmed
      · cases confirmed
      · exact ⟨_, rfl, .issued⟩

/-- A token is marked by one call to the store. -/
theorem markUsed_allOrNothing (ttl : Int) (id : String) :
    AllOrNothing (fun result => (Answer.marked result).claims = false)
      (fun result => Call.Tells ttl (.markUsed id) (.marked result)) (markUsed id) := by
  rw [markUsed_steps]
  refine .look rfl fun now => .call ?_ ?_
  · rintro (e | _ | _) unconfirmed
    · exact .done rfl
    · exact .done rfl
    · cases unconfirmed
  · rintro (e | _ | _) confirmed
    · cases confirmed
    · cases confirmed
    · exact ⟨_, rfl, .marked⟩

/-- A decision is carried out by one call to the store; the caller is told that it was, or something
else. -/
theorem commit_allOrNothing {id : String} {d : Decision} {a : Actor} {g : Option Guard}
    {Tells : Except Failure Outcome → (call : StoreCall) → Except StoreError call.Result → Prop}
    (tells : ∀ now before after,
      Tells (.ok (.processed after)) (.commit id d a g now) (.ok (.committed before after))) :
    AllOrNothing (fun result => (Answer.decided result).claims = false) Tells (commit id d a g).run := by
  rw [commit_steps]
  refine .look rfl fun now => .call ?_ ?_
  · rintro (e | ⟨before, after⟩ | ⟨_ | status | verdict⟩) unconfirmed
    · exact .done rfl
    · cases unconfirmed
    · exact .done rfl
    · exact .done rfl
    · exact .done rfl
  · rintro (e | ⟨before, after⟩ | cause) confirmed
    · cases confirmed
    · exact ⟨_, rfl, tells now before after⟩
    · cases confirmed

/-- A decision through the link looks first. -/
theorem process_allOrNothing (ttl : Int) (id supplied : String) (d : Decision) :
    AllOrNothing (fun result => (Answer.decided result).claims = false)
      (fun result => Call.Tells ttl (.process id supplied d) (.decided result))
      (process ttl id supplied d).run := by
  rw [process_steps]
  refine .of_reads_bind (inspect_reads ttl id supplied) ?_
  rintro (e | r | status)
  · exact .done rfl
  · exact commit_allOrNothing fun _ _ _ => .link
  · exact .done rfl

theorem processViaPanel_allOrNothing (ttl : Int) (id : String) (d : Decision) (adminId : String) :
    AllOrNothing (fun result => (Answer.decided result).claims = false)
      (fun result => Call.Tells ttl (.processViaPanel id d adminId) (.decided result))
      (processViaPanel id d adminId).run := by
  rw [processViaPanel_steps]
  cases named : (trim adminId).isEmpty with
  | true => exact .done rfl
  | false => exact commit_allOrNothing fun _ _ _ => .panel named

end Workflow

/-- Every call to the workflow does one thing or nothing. -/
theorem Call.flow_allOrNothing (s : Settings) {c : Call} (service : c.isService = true) :
    AllOrNothing (fun a => a.claims = false) (c.Tells s.tokenTtl) (c.flow s) := by
  cases c with
  | submit data => exact (submit_allOrNothing s.tokenTtl data).map
  | find id => exact (AllOrNothing.of_reads (find_reads id) fun _ => rfl).map
  | inspect id supplied => exact (AllOrNothing.of_reads (inspect_reads _ id supplied) fun _ => rfl).map
  | validate id supplied =>
    exact (AllOrNothing.of_reads (validate_reads _ id supplied) fun _ => rfl).map
  | issue id => exact (issue_allOrNothing s.tokenTtl id).map
  | markUsed id => exact (markUsed_allOrNothing s.tokenTtl id).map
  | process id supplied d => exact (process_allOrNothing s.tokenTtl id supplied d).map
  | processViaPanel id d adminId => exact (processViaPanel_allOrNothing s.tokenTtl id d adminId).map
  | handle e => cases service

end ApprovalDesk
