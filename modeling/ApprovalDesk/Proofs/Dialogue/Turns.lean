import ApprovalDesk.Dialogue

/-!
# Dialogues turn by turn

A dialogue that is not run alone advances one turn at a time, whatever happens between its turns.
`Leads` relates it to what is left of it after some turns. A dialogue made of two parts is in its
first part until the turns lead that part to a value, and from then on in its second.
-/

namespace ApprovalDesk.Dialogue

set_option autoImplicit false

/-- A question with the answer to it. -/
structure Turn (Q : Type) (R : Q → Type) where
  question : Q
  reply : Except Crash (R question)

variable {Q : Type} {R : Q → Type} {α β : Type}

/-- What is left of a dialogue once its question is answered. -/
def resume {q : Q} (next : R q → Dialogue Q R α) : Except Crash (R q) → Dialogue Q R α
  | .ok r => next r
  | .error c => .crash c

theorem resume_bind {q : Q} (next : R q → Dialogue Q R α) (reply : Except Crash (R q))
    (f : α → Dialogue Q R β) : resume next reply >>= f = resume (fun r => next r >>= f) reply := by
  cases reply <;> rfl

/-- A dialogue in two parts has not come to a value while the first part has not. -/
theorem bind_ne_done {x : Dialogue Q R α} (unfinished : ∀ a, x ≠ .done a) (f : α → Dialogue Q R β) (b : β) :
    x >>= f ≠ .done b := by
  cases x with
  | done a => exact absurd rfl (unfinished a)
  | crash c => exact nofun
  | ask q next => exact nofun

/-- The turns lead a dialogue to what is left of it. -/
inductive Leads : Dialogue Q R α → List (Turn Q R) → Dialogue Q R α → Prop where
  | here (x : Dialogue Q R α) : Leads x [] x
  | turn {q : Q} {next : R q → Dialogue Q R α} {reply : Except Crash (R q)}
      {turns : List (Turn Q R)} {x : Dialogue Q R α} (rest : Leads (resume next reply) turns x) :
      Leads (.ask q next) (⟨q, reply⟩ :: turns) x

namespace Leads

variable {x y : Dialogue Q R α} {f : α → Dialogue Q R β} {z : Dialogue Q R β}
  {turns later : List (Turn Q R)}

theorem of_no_turns (h : Leads x [] y) : y = x := by
  cases h
  rfl

theorem value_of_done {a b : α} (h : Leads (.done a) turns (.done b)) : a = b := by
  cases h
  rfl

/-- One turn more. -/
theorem append {q : Q} {next : R q → Dialogue Q R α} (h : Leads x turns (.ask q next))
    (reply : Except Crash (R q)) : Leads x (turns ++ [⟨q, reply⟩]) (resume next reply) := by
  generalize last : Dialogue.ask q next = y at h
  induction h with
  | here y =>
    subst last
    exact .turn (.here _)
  | turn _ ih => exact .turn (ih last)

/-- A dialogue in two parts is in the first part or has left it with a value. -/
theorem bind_cases (h : Leads (x >>= f) turns z) :
    (∃ y, Leads x turns y ∧ (∀ a, y ≠ .done a) ∧ z = y >>= f) ∨
      ∃ a first second, turns = first ++ second ∧ Leads x first (.done a) ∧
        Leads (f a) second z := by
  induction turns generalizing x with
  | nil =>
    have same : z = x >>= f := of_no_turns h
    cases x with
    | done a => exact Or.inr ⟨a, [], [], rfl, .here _, h⟩
    | crash c => exact Or.inl ⟨.crash c, .here _, by simp, same⟩
    | ask q next => exact Or.inl ⟨.ask q next, .here _, by simp, same⟩
  | cons t turns ih =>
    cases x with
    | done a => exact Or.inr ⟨a, [], t :: turns, rfl, .here _, h⟩
    | crash c => cases h
    | ask q next =>
      rw [ask_bind] at h
      cases h with
      | turn rest =>
        rw [← resume_bind] at rest
        rcases ih rest with ⟨y, front, unfinished, last⟩ | ⟨a, first, second, split, front, back⟩
        · exact Or.inl ⟨y, .turn front, unfinished, last⟩
        · exact Or.inr ⟨a, _ :: first, second, congrArg _ split, .turn front, back⟩

/-- A dialogue in two parts that has come to a value has left both. -/
theorem bind_done {b : β} (h : Leads (x >>= f) turns (.done b)) :
    ∃ a first second, turns = first ++ second ∧ Leads x first (.done a) ∧
      Leads (f a) second (.done b) := by
  rcases bind_cases h with ⟨y, -, unfinished, last⟩ | both
  · exact absurd last.symm (bind_ne_done unfinished f b)
  · exact both

/-- Once its first part has come to a value, a dialogue in two parts is in the second. -/
theorem second_of_first {a : α} (first : Leads x turns (.done a))
    (h : Leads (x >>= f) (turns ++ later) z) : Leads (f a) later z := by
  generalize ends : Dialogue.done a = y at first
  induction first with
  | here y =>
    subst ends
    exact h
  | turn _ ih =>
    rw [ask_bind, List.cons_append] at h
    cases h with
    | turn rest =>
      rw [← resume_bind] at rest
      exact ih rest ends

/-- A dialogue whose value is only renamed takes the same turns. -/
theorem map_cases {g : α → β} (h : Leads (g <$> x) turns z) :
    ∃ y, Leads x turns y ∧ z = g <$> y := by
  rw [← bind_pure_comp] at h
  rcases bind_cases h with ⟨y, front, -, last⟩ | ⟨a, first, second, split, front, back⟩
  · exact ⟨y, front, last.trans (bind_pure_comp g y)⟩
  · cases back with
    | here => exact ⟨.done a, by rwa [split, List.append_nil], rfl⟩

end Leads

/-! ## What a dialogue asks -/

/-- Every question of a dialogue is of a kind, whatever the answers are. -/
inductive AsksOnly (P : Q → Prop) : Dialogue Q R α → Prop where
  | done (a : α) : AsksOnly P (.done a)
  | crash (c : Crash) : AsksOnly P (.crash c)
  | ask {q : Q} {next : R q → Dialogue Q R α} (kind : P q) (rest : ∀ r, AsksOnly P (next r)) :
      AsksOnly P (.ask q next)

namespace AsksOnly

variable {P : Q → Prop} {x y : Dialogue Q R α}

theorem any (x : Dialogue Q R α) : AsksOnly (fun _ => True) x := by
  induction x with
  | done a => exact .done a
  | crash c => exact .crash c
  | ask q next ih => exact .ask trivial ih

theorem ofExcept (result : Except Crash α) : AsksOnly P (ofExcept result : Dialogue Q R α) := by
  cases result with
  | ok a => exact .done a
  | error c => exact .crash c

theorem mono {P' : Q → Prop} (h : AsksOnly P x) (weaker : ∀ q, P q → P' q) : AsksOnly P' x := by
  induction h with
  | done a => exact .done a
  | crash c => exact .crash c
  | ask kind _ ih => exact .ask (weaker _ kind) ih

theorem bind {f : α → Dialogue Q R β} (first : AsksOnly P x) (second : ∀ a, AsksOnly P (f a)) :
    AsksOnly P (x >>= f) := by
  induction first with
  | done a => exact second a
  | crash c => exact .crash c
  | ask kind _ ih => exact .ask kind ih

theorem map {f : α → β} (h : AsksOnly P x) : AsksOnly P (f <$> x) := by
  rw [← bind_pure_comp]
  exact h.bind fun a => .done (f a)

theorem of_turn {turns : List (Turn Q R)} (h : AsksOnly P x) (leads : Leads x turns y) :
    ∀ t ∈ turns, P t.question := by
  induction leads with
  | here x => simp
  | @turn q next reply turns y _ ih =>
    cases h with
    | ask kind rest =>
      have left : AsksOnly P (resume next reply) := by
        cases reply with
        | ok r => exact rest r
        | error c => exact .crash c
      intro t member
      rcases List.mem_cons.1 member with rfl | member
      · exact kind
      · exact ih left t member

end AsksOnly

/-! ## Where a renamed dialogue ends -/

theorem map_eq_done {g : α → β} {x : Dialogue Q R α} {b : β} (h : g <$> x = .done b) :
    ∃ a, x = .done a ∧ b = g a := by
  rw [← bind_pure_comp] at h
  cases x with
  | done a => exact ⟨a, rfl, (Dialogue.done.inj h).symm⟩
  | crash c => cases h
  | ask q next => cases h

theorem map_eq_crash {g : α → β} {x : Dialogue Q R α} {c : Crash} (h : g <$> x = .crash c) :
    x = .crash c := by
  rw [← bind_pure_comp] at h
  cases x with
  | done a => cases h
  | crash c => exact congrArg _ (Dialogue.crash.inj h)
  | ask q next => cases h

end ApprovalDesk.Dialogue
