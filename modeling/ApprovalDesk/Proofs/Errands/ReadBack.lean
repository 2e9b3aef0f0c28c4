import ApprovalDesk.Proofs.Dispatch.Consequences
import ApprovalDesk.Proofs.Errands.Turns
import ApprovalDesk.Proofs.Http.Records

/-!
# What was submitted is read back

Seen from outside, the desk is a map from ids to records. A submission that is answered with a record
puts it under its id; a decision that is carried out brings the one transition about; nothing else, no
outage and no turn of the clock changes what a reader of the id is shown. An id with which no submission
was answered is not found.
-/

namespace ApprovalDesk

set_option autoImplicit false

open ApprovalDesk.Text ApprovalDesk.Time ApprovalDesk.Workflow

/-! ## Errands that bring a record in -/

/-- The submission was answered with the record, over HTTP or directly. -/
inductive Errand.Result.Creates (r : Request) : Errand.Result → Prop where
  | response : Creates r (.response (.ok (.json 201 r.toJson)))
  | answer : Creates r (.answer (.ok (.submitted (.ok r))))

/-- The errand is answered as one that created something. -/
def Errand.Result.isCreated : Errand.Result → Bool
  | .response (.ok r) => r.status == 201
  | .answer (.ok (.submitted (.ok _))) => true
  | _ => false

namespace World

/-- What an errand brings in: one new record, with which it is answered, or none. -/
inductive Takes (w : World) : Errand.Result → World → Prop where
  | nothing {result : Errand.Result} {w' : World} (silent : result.isCreated = false)
      (absent : ∀ id, w.store.requests.find? id = none → w'.store.requests.find? id = none) :
      Takes w result w'
  | one {result : Errand.Result} {w' : World} (r : Request) (creates : result.Creates r)
      (drawn : r.id = (w.ids w.idsDrawn).write)
      (absent : w.store.requests.find? r.id = none) (stored : w'.store.requests.find? r.id = some r)
      (others : ∀ id, id ≠ r.id → w.store.requests.find? id = none →
        w'.store.requests.find? id = none) :
      Takes w result w'

variable {w w' : World}

theorem Takes.of_same {result : Errand.Result} (silent : result.isCreated = false)
    (same : w'.store.requests = w.store.requests) : w.Takes result w' :=
  .nothing silent fun id absent => by rw [same, absent]

end World

end ApprovalDesk
