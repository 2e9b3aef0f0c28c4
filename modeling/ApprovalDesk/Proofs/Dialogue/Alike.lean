import ApprovalDesk.Dialogue

/-!
# Dialogues that are alike

Two dialogues are alike if they ask questions that match, go on alike whenever the answers are related,
and end with related values. In surroundings that give related answers to questions that match, and that
stay related, alike dialogues come to related ends (`Alike.run`). Every comparison of two runs is an
instance of this.
-/

namespace ApprovalDesk.Dialogue

set_option autoImplicit false

variable {Q : Type} {R : Q → Type} {α β γ δ σ : Type}

/-- Which questions match, and how the answers to them have to be related. -/
abbrev Matching (Q : Type) (R : Q → Type) := (q q' : Q) → (R q → R q' → Prop) → Prop

/-- A question matches itself, and the answers to it have to be the same. -/
inductive Itself : Matching Q R where
  | intro (q : Q) : Itself q q Eq

/-- Two dialogues ask questions that match until they end in the same way. -/
inductive Alike (M : Matching Q R) (S : α → β → Prop) : Dialogue Q R α → Dialogue Q R β → Prop where
  | done {a : α} {b : β} (related : S a b) : Alike M S (.done a) (.done b)
  | crash (c : Crash) : Alike M S (.crash c) (.crash c)
  | ask {q q' : Q} {T : R q → R q' → Prop} {next : R q → Dialogue Q R α}
      {next' : R q' → Dialogue Q R β} (asked : M q q' T)
      (rest : ∀ r r', T r r' → Alike M S (next r) (next' r')) :
      Alike M S (.ask q next) (.ask q' next')

/-- Two runs come to related values, or to the same crash, in surroundings that are related. -/
inductive Ends (S : α → β → Prop) (W : σ → σ → Prop) :
    Except Crash α × σ → Except Crash β × σ → Prop where
  | value {a : α} {b : β} {s t : σ} (related : S a b) (around : W s t) :
      Ends S W (.ok a, s) (.ok b, t)
  | crash {s t : σ} (c : Crash) (around : W s t) : Ends S W (.error c, s) (.error c, t)

/-- Where values are related by being equal, so are the results. -/
theorem Ends.eq {W : σ → σ → Prop} {x y : Except Crash α × σ} (h : Ends Eq W x y) :
    x.1 = y.1 ∧ W x.2 y.2 := by
  cases h with
  | value related around =>
    cases related
    exact ⟨rfl, around⟩
  | crash c around => exact ⟨rfl, around⟩

/-- One run compared with itself. -/
theorem Ends.refl (x : Except Crash α × σ) : Ends Eq Eq x x := by
  rcases x with ⟨c | a, s⟩
  · exact .crash c rfl
  · exact .value rfl rfl

namespace Alike

variable {M : Matching Q R} {S : α → β → Prop} {S' : γ → δ → Prop} {x : Dialogue Q R α}
  {y : Dialogue Q R β}

theorem bind {f : α → Dialogue Q R γ} {g : β → Dialogue Q R δ} (first : Alike M S x y)
    (second : ∀ a b, S a b → Alike M S' (f a) (g b)) : Alike M S' (x >>= f) (y >>= g) := by
  induction first with
  | done related => exact second _ _ related
  | crash c => exact .crash c
  | ask asked _ ih => exact .ask asked ih

/-- Where the first parts come to the same value, the second parts start with the same. -/
theorem bind_eq {x y : Dialogue Q R α} {f : α → Dialogue Q R γ} {g : α → Dialogue Q R δ}
    (first : Alike M Eq x y) (second : ∀ a, Alike M S' (f a) (g a)) :
    Alike M S' (x >>= f) (y >>= g) := by
  refine first.bind fun a b equal => ?_
  cases equal
  exact second a

theorem map {f : α → γ} {g : β → δ} (h : Alike M S x y) (renamed : ∀ a b, S a b → S' (f a) (g b)) :
    Alike M S' (f <$> x) (g <$> y) := by
  rw [← bind_pure_comp, ← bind_pure_comp]
  exact h.bind fun a b related => .done (renamed a b related)

/-- Values that are equal stay so when they are renamed. -/
theorem map_eq {x y : Dialogue Q R α} (h : Alike M Eq x y) (f : α → γ) :
    Alike M Eq (f <$> x) (f <$> y) :=
  h.map fun _ _ same => congrArg f same

theorem mono {S' : α → β → Prop} (h : Alike M S x y) (weaker : ∀ a b, S a b → S' a b) :
    Alike M S' x y := by
  induction h with
  | done related => exact .done (weaker _ _ related)
  | crash c => exact .crash c
  | ask asked _ ih => exact .ask asked ih

/-- The same question, to which the answers are the same. -/
theorem same {q : Q} {next : R q → Dialogue Q R α} {next' : R q → Dialogue Q R β} (asked : M q q Eq)
    (rest : ∀ r, Alike M S (next r) (next' r)) : Alike M S (.ask q next) (.ask q next') := by
  refine .ask asked fun r r' equal => ?_
  cases equal
  exact rest r

/-- A single question. -/
theorem single {q : Q} (asked : M q q Eq) :
    Alike M Eq (.ask q .done : Dialogue Q R (R q)) (.ask q .done) :=
  .same asked fun _ => .done rfl

/-- Every dialogue is like itself. -/
theorem itself (x : Dialogue Q R α) : Alike Itself Eq x x := by
  induction x with
  | done a => exact .done rfl
  | crash c => exact .crash c
  | ask q next ih => exact .same (.intro q) ih

/-- **Alike dialogues come to related ends** if their surroundings answer questions that match with
related answers and stay related. -/
theorem run {answer : (q : Q) → σ → Except Crash (R q) × σ} {W : σ → σ → Prop}
    (step : ∀ {q q' : Q} {T : R q → R q' → Prop} {s t : σ}, M q q' T → W s t →
      Ends T W (answer q s) (answer q' t))
    (alike : Alike M S x y) {s t : σ} (around : W s t) :
    Ends S W (x.run answer s) (y.run answer t) := by
  induction alike generalizing s t with
  | done related => exact .value related around
  | crash c => exact .crash c around
  | @ask q q' T next next' asked _ ih =>
    have first := step asked around
    rw [Dialogue.run, Dialogue.run]
    generalize answer q s = left at first ⊢
    generalize answer q' t = right at first ⊢
    cases first with
    | value related around' => exact ih _ _ related around'
    | crash c around' => exact .crash c around'

end Alike

end ApprovalDesk.Dialogue
