import ApprovalDesk.Failure

/-!
# Dialogues

A computation as the questions that it asks of its surroundings, one after another, each with what it
does for every answer. It ends with a value, or is cut short by a crash. What happens between two
questions is up to whoever answers them, so the same dialogue can be run alone, among others, or
against surroundings that fail.
-/

namespace ApprovalDesk

set_option autoImplicit false

/-- A computation that asks questions of kind `Q`, where `R q` is the type of answers to `q`. -/
inductive Dialogue (Q : Type) (R : Q → Type) (α : Type) where
  | done (value : α)
  | crash (cause : Crash)
  | ask (question : Q) (next : R question → Dialogue Q R α)

namespace Dialogue

variable {Q : Type} {R : Q → Type} {α β : Type}

/-- One computation, then another that depends on its value. -/
def bind : Dialogue Q R α → (α → Dialogue Q R β) → Dialogue Q R β
  | .done a, f => f a
  | .crash c, _ => .crash c
  | .ask q next, f => .ask q fun r => (next r).bind f

instance : Monad (Dialogue Q R) where
  pure := .done
  bind := bind

/-- A value that is there unless its computation crashes. -/
def ofExcept : Except Crash α → Dialogue Q R α
  | .ok a => .done a
  | .error c => .crash c

/-- Runs a dialogue in surroundings that answer and change with every question. -/
def run {σ : Type} (answer : (q : Q) → σ → Except Crash (R q) × σ) :
    Dialogue Q R α → σ → Except Crash α × σ
  | .done a, s => (.ok a, s)
  | .crash c, s => (.error c, s)
  | .ask q next, s =>
    match answer q s with
    | (.ok r, s) => run answer (next r) s
    | (.error c, s) => (.error c, s)

@[simp] theorem pure_eq (a : α) : (pure a : Dialogue Q R α) = .done a := rfl

@[simp] theorem done_bind (a : α) (f : α → Dialogue Q R β) : (.done a >>= f) = f a := rfl

@[simp] theorem crash_bind (c : Crash) (f : α → Dialogue Q R β) :
    ((.crash c : Dialogue Q R α) >>= f) = .crash c := rfl

@[simp] theorem ask_bind (q : Q) (next : R q → Dialogue Q R α) (f : α → Dialogue Q R β) :
    (.ask q next >>= f) = .ask q fun r => next r >>= f := rfl

/-- Running one computation after the other. -/
theorem run_bind {σ : Type} (answer : (q : Q) → σ → Except Crash (R q) × σ)
    (x : Dialogue Q R α) (f : α → Dialogue Q R β) (s : σ) :
    (x >>= f).run answer s =
      match x.run answer s with
      | (.ok a, s) => (f a).run answer s
      | (.error c, s) => (.error c, s) := by
  induction x generalizing s with
  | done a => rfl
  | crash c => rfl
  | ask q next ih =>
    rw [ask_bind, run, run]
    split
    · exact ih ..
    · rfl

/-- Doing nothing afterwards changes nothing. -/
theorem bind_done (x : Dialogue Q R α) : x.bind .done = x := by
  induction x with
  | done a => rfl
  | crash c => rfl
  | ask q next ih => simp only [bind, ih]

/-- Three computations, one after the other, can be grouped either way. -/
theorem bind_bind {γ : Type} (x : Dialogue Q R α) (f : α → Dialogue Q R β)
    (g : β → Dialogue Q R γ) : (x.bind f).bind g = x.bind fun a => (f a).bind g := by
  induction x with
  | done a => rfl
  | crash c => rfl
  | ask q next ih => simp only [bind, ih]

instance : LawfulMonad (Dialogue Q R) :=
  LawfulMonad.mk' _ bind_done (fun _ _ => rfl) bind_bind

end Dialogue

end ApprovalDesk
