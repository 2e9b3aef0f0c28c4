/-!
# Results that may be errors

One step after another succeeds exactly if both do.
-/

namespace ApprovalDesk

set_option autoImplicit false

variable {ε α β : Type} {x : Except ε α} {f : α → Except ε β}

/-- What goes on after a success. -/
theorem ok_bind (a : α) (f : α → Except ε β) : (Except.ok a >>= f) = f a := rfl

theorem bind_ok {a : α} {result : Except ε β} (first : x = .ok a) (rest : f a = result) :
    (x >>= f) = result := by
  rw [first, ok_bind, rest]

/-- What comes of two steps comes of the second one. -/
theorem bind_eq_ok {b : β} : x >>= f = .ok b ↔ ∃ a, x = .ok a ∧ f a = .ok b := by
  constructor
  · intro read
    cases x with
    | error e => cases read
    | ok a => exact ⟨a, rfl, read⟩
  · rintro ⟨a, first, rest⟩
    exact bind_ok first rest

end ApprovalDesk
