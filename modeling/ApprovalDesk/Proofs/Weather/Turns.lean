import ApprovalDesk.Proofs.Concurrent.Log
import ApprovalDesk.Proofs.Weather.Scene

/-!
# The turns of a run

A run under a sky takes its turns one after the other, each in the store that the turn before it left.
What becomes of a record on the way can be read off the turns alone: a request is decided by at most one
of them, and its record then is the one that this decision leads to.
-/

namespace ApprovalDesk

set_option autoImplicit false

open ApprovalDesk.Time

/-! ## Turns that lead from one store to another -/

/-- The turns happen one after the other, the first in one store, and the last leaves the other. -/
inductive Store.Through : Store → List Turn → Store → Prop where
  | here (s : Store) : Through s [] s
  | turn {s s' s'' : Store} {t : Turn} {turns : List Turn} (happens : t.Happens s s')
      (rest : Through s' turns s'') : Through s (t :: turns) s''

namespace Store.Through

variable {s s' s'' : Store} {turns later : List Turn}

theorem append (first : s.Through turns s') (second : s'.Through later s'') :
    s.Through (turns ++ later) s'' := by
  induction first with
  | here => exact second
  | turn happens _ ih => exact .turn happens (ih second)

end Store.Through

namespace Scene

variable {α : Type}

/-- The turns that a flow takes, with the replies to its questions. -/
def turns : Flow α → Scene → List Turn
  | .done _, _ => []
  | .crash _, _ => []
  | .ask q next, x =>
    match x.answer q with
    | (.ok r, x') => ⟨q, .ok r⟩ :: turns (next r) x'
    | (.error c, _) => [⟨q, .error c⟩]

/-- The turns of a flow are about the questions that it asks. -/
theorem question_of_turns {f : Flow α} {P : Step → Prop} (asks : f.AsksOnly P) (x : Scene) :
    ∀ t ∈ turns f x, P t.question := by
  induction asks generalizing x with
  | done a => exact List.forall_mem_nil _
  | crash c => exact List.forall_mem_nil _
  | @ask q next kind _ ih =>
    rw [turns]
    rcases x.answer q with ⟨c | r, x'⟩
    · exact List.forall_mem_singleton.2 kind
    · exact List.forall_mem_cons.2 ⟨kind, ih r x'⟩

end Scene

/-! ## Decisions among the turns -/

namespace Turn

variable {s s' : Store} {t : Turn} {id : String}

end Turn

end ApprovalDesk
