import ApprovalDesk.Dispatch
import ApprovalDesk.Workflow

/-!
# Calls

Everything that can be asked of the desk from outside, as one type of calls with one type of answers,
so that runs can mix them. `Call.flow` is the flow that answers a call.
-/

namespace ApprovalDesk

set_option autoImplicit false

open ApprovalDesk.Workflow

/-- A call to the workflow, to its tokens, or to the dispatcher. -/
inductive Call where
  | submit (data : Submission)
  | find (id : String)
  | inspect (id supplied : String)
  | validate (id supplied : String)
  | issue (id : String)
  | markUsed (id : String)
  | process (id supplied : String) (decision : Decision)
  | processViaPanel (id : String) (decision : Decision) (adminId : String)
  | handle (event : Event)

/-- What a call is answered with. -/
inductive Answer where
  | submitted (result : Except Failure Request)
  | found (result : Except Failure Request)
  | inspected (result : Except Failure Inspection)
  | validated (valid : Bool)
  | issued (result : Except Failure String)
  | marked (result : Except StoreError Bool)
  | decided (result : Except Failure Outcome)
  | handled (report : Dispatch.Report)

namespace Call

/-- The flow that answers a call. -/
def flow (s : Settings) : Call → Flow Answer
  | .submit data => .submitted <$> (Workflow.submit data).run
  | .find id => .found <$> (Workflow.find id).run
  | .inspect id supplied => .inspected <$> (Workflow.inspect s.tokenTtl id supplied).run
  | .validate id supplied => .validated <$> Workflow.validate s.tokenTtl id supplied
  | .issue id => .issued <$> (Workflow.issue id).run
  | .markUsed id => .marked <$> Workflow.markUsed id
  | .process id supplied d => .decided <$> (Workflow.process s.tokenTtl id supplied d).run
  | .processViaPanel id d adminId => .decided <$> (Workflow.processViaPanel id d adminId).run
  | .handle event => .handled <$> Dispatch.handle s event

/-- The request that a call names. -/
def about : Call → Option String
  | .find id | .inspect id _ | .validate id _ | .issue id | .markUsed id | .process id _ _
  | .processViaPanel id _ _ => some id
  | .submit _ | .handle _ => none

/-- The request that a call may decide. -/
def decides : Call → Option String
  | .process id _ _ | .processViaPanel id _ _ => some id
  | .submit _ | .find _ | .inspect .. | .validate .. | .issue _ | .markUsed _ | .handle _ => none

end Call

namespace Answer

/-- The record to which the call brought its request. -/
def processed? : Answer → Option Request
  | .decided (.ok (.processed r)) => some r
  | _ => none

/-- The status with which the caller was told that the request had been decided. -/
def alreadyProcessed? : Answer → Option Status
  | .inspected (.ok (.alreadyProcessed status)) | .decided (.ok (.alreadyProcessed status)) =>
    some status
  | _ => none

end Answer

end ApprovalDesk
