import ApprovalDesk.Proofs.Dispatch.Steps
import ApprovalDesk.Proofs.Workflow.Calls
import ApprovalDesk.Proofs.Workflow.Steps

/-!
# What the calls ask

Looking something up and minting a token only read. Of all calls, the two that decide are the only ones
that ask the store to carry out a decision.
-/

namespace ApprovalDesk

set_option autoImplicit false

open ApprovalDesk.Dialogue ApprovalDesk.Workflow

namespace Workflow

/-! ## Calls that only read -/

theorem check_reads (ttl : Int) (id supplied : String) :
    (check ttl id supplied).AsksOnly fun q => q.reads = true := by
  rw [check_steps]
  refine .ask rfl fun reply => ?_
  rcases reply with e | _ | token
  · exact .done _
  · exact .done _
  · exact .ask rfl fun now => .ofExcept _

theorem validate_reads (ttl : Int) (id supplied : String) :
    (validate ttl id supplied).AsksOnly fun q => q.reads = true :=
  (check_reads ttl id supplied).bind fun _ => .done _

theorem inspect_reads (ttl : Int) (id supplied : String) :
    (inspect ttl id supplied).run.AsksOnly fun q => q.reads = true := by
  rw [inspect_steps]
  refine (check_reads ttl id supplied).bind fun v => ?_
  split
  · exact .ask rfl fun reply => .done _
  · exact .done _

theorem find_reads (id : String) : (find id).run.AsksOnly fun q => q.reads = true := by
  rw [find_steps]
  refine .ask rfl fun reply => ?_
  rcases reply with e | _ | r <;> exact .done _

theorem mint_reads (id : String) : (mint id).run.AsksOnly fun q => q.reads = true := by
  rw [mint_steps]
  refine .ask rfl fun random => ?_
  cases random with
  | none => exact .done _
  | some random => exact .ask rfl fun now => .ask rfl fun later => .done _

theorem inspect_quiet (ttl : Int) (id supplied : String) :
    (inspect ttl id supplied).run.AsksOnly fun q => q.quiet = true :=
  (inspect_reads ttl id supplied).mono fun _ => Step.quiet_of_reads

theorem mint_quiet (id : String) : (mint id).run.AsksOnly fun q => q.quiet = true :=
  (mint_reads id).mono fun _ => Step.quiet_of_reads

/-! ## Calls that do not decide -/

theorem markUsed_quiet (id : String) : (markUsed id).AsksOnly fun q => q.quiet = true := by
  rw [markUsed_steps]
  exact .ask rfl fun now => .ask rfl fun reply => .done _

theorem issue_quiet (id : String) : (issue id).run.AsksOnly fun q => q.quiet = true := by
  rw [issue_steps]
  refine (mint_quiet id).bind fun result => ?_
  cases result with
  | error e => exact .done _
  | ok token =>
    refine .ask rfl fun reply => ?_
    rcases reply with e | _ | _ <;> exact .done _

theorem submit_asks (data : Submission) : (submit data).run.AsksOnly fun q => q.isCommit = false := by
  rw [submit_steps]
  cases validateSubmission data with
  | error e => exact .done _
  | ok _ =>
    refine .ask rfl fun id => .ask rfl fun now => ?_
    refine ((mint_quiet id.write).mono fun _ => Step.isCommit_of_quiet).bind fun result => ?_
    cases result with
    | error e => exact .done _
    | ok token =>
      refine .ask rfl fun reply => ?_
      rcases reply with e | _
      · exact .done _
      · exact .ask rfl fun _ => .done _

end Workflow

/-- Only the calls that decide ask the store to carry out a decision. -/
theorem Call.flow_asks (s : Settings) {c : Call} (other : c.decides = none) :
    (c.flow s).AsksOnly fun q => q.isCommit = false := by
  have reading {α : Type} {x : Flow α} (h : x.AsksOnly fun q => q.reads = true) :
      x.AsksOnly fun q => q.isCommit = false :=
    h.mono fun _ reads => Step.isCommit_of_quiet (Step.quiet_of_reads reads)
  cases c with
  | submit data => exact (submit_asks data).map
  | find id => exact (reading (find_reads id)).map
  | inspect id supplied => exact (reading (inspect_reads _ id supplied)).map
  | validate id supplied => exact (reading (validate_reads _ id supplied)).map
  | issue id => exact ((issue_quiet id).mono fun _ => Step.isCommit_of_quiet).map
  | markUsed id => exact ((markUsed_quiet id).mono fun _ => Step.isCommit_of_quiet).map
  | handle event =>
    exact ((Dispatch.handle_asks s event).mono fun _ followsUp =>
      Step.isCommit_of_quiet (Step.quiet_of_followsUp followsUp)).map
  | process | processViaPanel => cases other

end ApprovalDesk
