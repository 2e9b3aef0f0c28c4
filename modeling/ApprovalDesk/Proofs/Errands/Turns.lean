import ApprovalDesk.Proofs.Secret.Errands
import ApprovalDesk.Proofs.Weather.Turns

/-!
# The turns of a script

The errands of a script are run one after the other, and so are their turns. Taking an event from the
queue is no turn; it leaves the store as it is.
-/

namespace ApprovalDesk.World

set_option autoImplicit false

/-- The turns that an errand takes. -/
def errandTurns (s : Settings) (w : World) (sky : Sky) : Errand → List Turn
  | .call c => Scene.turns (c.flow s) ⟨w, sky⟩
  | .http r => Scene.turns (Http.handle s.tokenTtl r) ⟨w, sky⟩
  | .dispatch =>
    match w.queue with
    | [] => []
    | e :: rest => Scene.turns (Dispatch.handle s e) ⟨{ w with queue := rest }, sky⟩

/-- The turns that the errands of a script take. -/
def turns (s : Settings) (w : World) : List (Errand × Sky) → List Turn
  | [] => []
  | (e, sky) :: script => w.errandTurns s sky e ++ (w.errand s sky e).2.turns s script

variable (s : Settings) (w : World)

end ApprovalDesk.World
