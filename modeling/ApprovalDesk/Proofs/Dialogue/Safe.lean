import ApprovalDesk.Proofs.Dialogue.Turns

/-!
# Dialogues that do not crash

Whether a dialogue crashes may depend on the answers that it gets. `Safe` says that it does not while
its surroundings answer as it relies on, and that all its questions are of a kind until then.
-/

namespace ApprovalDesk.Dialogue

set_option autoImplicit false

variable {Q : Type} {R : Q → Type} {α β : Type}

/-- As long as every answer is one that the dialogue relies on, its questions are of a kind and it does
not crash. -/
inductive Safe (P : Q → Prop) (G : (q : Q) → R q → Prop) : Dialogue Q R α → Prop where
  | done (a : α) : Safe P G (.done a)
  | ask {q : Q} {next : R q → Dialogue Q R α} (kind : P q) (rest : ∀ r, G q r → Safe P G (next r)) :
      Safe P G (.ask q next)

namespace Safe

variable {P : Q → Prop} {G : (q : Q) → R q → Prop} {x : Dialogue Q R α}

/-- A single question. -/
theorem single {q : Q} (kind : P q) : Safe P G (.ask q .done : Dialogue Q R (R q)) :=
  .ask kind fun r _ => .done r

theorem mono {P' : Q → Prop} {G' : (q : Q) → R q → Prop} (h : Safe P G x)
    (weaker : ∀ q, P q → P' q) (stronger : ∀ q r, G' q r → G q r) : Safe P' G' x := by
  induction h with
  | done a => exact .done a
  | ask kind _ ih => exact .ask (weaker _ kind) fun r given => ih r (stronger _ r given)

theorem bind {f : α → Dialogue Q R β} (first : Safe P G x) (second : ∀ a, Safe P G (f a)) :
    Safe P G (x >>= f) := by
  induction first with
  | done a => exact second a
  | ask kind _ ih => exact .ask kind ih

theorem map {f : α → β} (h : Safe P G x) : Safe P G (f <$> x) := by
  rw [← bind_pure_comp]
  exact h.bind fun a => .done (f a)

/-- A dialogue that relies on nothing asks its questions whatever the answers are. -/
theorem asksOnly (h : Safe P (fun _ _ => True) x) : AsksOnly P x := by
  induction h with
  | done a => exact .done a
  | ask kind _ ih => exact .ask kind fun r => ih r trivial

end Safe

end ApprovalDesk.Dialogue
