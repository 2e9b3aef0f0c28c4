import ApprovalDesk.Time.Instant

/-!
# Sums of instants and spans

An instant and a span make a moment on a line of nanoseconds. If the instant lies in a leap second, that
second has its own place on the line, between the second that it prolongs and the next one. The line
follows the order of instants, so a longer span never ends earlier.
-/

namespace ApprovalDesk.Time.Instant

set_option autoImplicit false

/-! ## The order of instants -/

theorem isAfter_iff {t u : Instant} :
    t.isAfter u = true ↔ u.second < t.second ∨ (u.second = t.second ∧ u.nano < t.nano) := by
  simp only [isAfter, Bool.or_eq_true, Bool.and_eq_true, decide_eq_true_eq, beq_iff_eq]

theorem isAfter_eq_false_iff {t u : Instant} :
    t.isAfter u = false ↔ t.second < u.second ∨ (t.second = u.second ∧ t.nano ≤ u.nano) := by
  rw [← Bool.not_eq_true, isAfter_iff]
  omega

theorem isAfter_self (t : Instant) : t.isAfter t = false :=
  isAfter_eq_false_iff.2 (Or.inr ⟨rfl, Nat.le_refl _⟩)

/-- What is not later than a moment is not later than any moment that comes after it. -/
theorem not_isAfter_trans {t u v : Instant} (first : t.isAfter u = false)
    (second : u.isAfter v = false) : t.isAfter v = false := by
  rw [isAfter_eq_false_iff] at first second ⊢
  omega

theorem not_isAfter_of_isAfter {t u : Instant} (after : t.isAfter u = true) : u.isAfter t = false := by
  rw [isAfter_iff] at after
  rw [isAfter_eq_false_iff]
  omega

/-! ## The line through an instant -/

/-- The moment some nanoseconds after `t`, or before it. The leap second in which `t` lies, if it lies in
one, has its own place on the line. -/
def later (t : Instant) (nanos : Int) : Instant :=
  let place := (t.nano : Int) + nanos
  if t.nano < 1000000000 ∨ place < 1000000000 then
    ⟨t.second + place / 1000000000, (place % 1000000000).toNat⟩
  else if place < 2000000000 then ⟨t.second, place.toNat⟩
  else ⟨t.second + place / 1000000000 - 1, (place % 1000000000).toNat⟩

section Zones

variable {t : Instant} {nanos : Int}

theorem later_ordinary (ordinary : t.nano < 1000000000 ∨ (t.nano : Int) + nanos < 1000000000) :
    t.later nanos = ⟨t.second + ((t.nano : Int) + nanos) / 1000000000,
      (((t.nano : Int) + nanos) % 1000000000).toNat⟩ := if_pos ordinary

theorem later_within (leap : 1000000000 ≤ t.nano) (low : 1000000000 ≤ (t.nano : Int) + nanos)
    (high : (t.nano : Int) + nanos < 2000000000) :
    t.later nanos = ⟨t.second, ((t.nano : Int) + nanos).toNat⟩ := by
  unfold later
  rw [if_neg (by omega), if_pos high]

theorem later_beyond (leap : 1000000000 ≤ t.nano) (far : 2000000000 ≤ (t.nano : Int) + nanos) :
    t.later nanos = ⟨t.second + ((t.nano : Int) + nanos) / 1000000000 - 1,
      (((t.nano : Int) + nanos) % 1000000000).toNat⟩ := by
  unfold later
  rw [if_neg (by omega), if_neg (by omega)]

/-- From a leap second the line leads before it, within it or beyond it. -/
theorem zones (leap : 1000000000 ≤ t.nano) (nanos : Int) :
    ((t.nano : Int) + nanos < 1000000000 ∧
      t.later nanos = ⟨t.second + ((t.nano : Int) + nanos) / 1000000000,
        (((t.nano : Int) + nanos) % 1000000000).toNat⟩) ∨
    (1000000000 ≤ (t.nano : Int) + nanos ∧ (t.nano : Int) + nanos < 2000000000 ∧
      t.later nanos = ⟨t.second, ((t.nano : Int) + nanos).toNat⟩) ∨
    (2000000000 ≤ (t.nano : Int) + nanos ∧
      t.later nanos = ⟨t.second + ((t.nano : Int) + nanos) / 1000000000 - 1,
        (((t.nano : Int) + nanos) % 1000000000).toNat⟩) := by
  by_cases before : (t.nano : Int) + nanos < 1000000000
  · exact Or.inl ⟨before, later_ordinary (Or.inr before)⟩
  by_cases within : (t.nano : Int) + nanos < 2000000000
  · exact Or.inr (Or.inl ⟨by omega, within, later_within leap (by omega) within⟩)
  · exact Or.inr (Or.inr ⟨by omega, later_beyond leap (by omega)⟩)

end Zones

/-- **The line follows the order of instants.** -/
theorem isAfter_later (t : Instant) {short long : Int} (less : short < long) :
    (t.later long).isAfter (t.later short) = true := by
  rw [isAfter_iff]
  by_cases plain : t.nano < 1000000000
  · rw [later_ordinary (Or.inl plain), later_ordinary (Or.inl plain)]
    dsimp only
    omega
  · have leap : 1000000000 ≤ t.nano := by omega
    rcases zones leap short with ⟨s, first⟩ | ⟨s, s', first⟩ | ⟨s, first⟩ <;>
      rcases zones leap long with ⟨l, second⟩ | ⟨l, l', second⟩ | ⟨l, second⟩ <;>
      rw [first, second] <;> dsimp only <;> omega

/-- A longer span does not end earlier. -/
theorem not_isAfter_later (t : Instant) {short long : Int} (le : short ≤ long) :
    (t.later short).isAfter (t.later long) = false := by
  rcases Int.lt_or_eq_of_le le with less | rfl
  · exact not_isAfter_of_isAfter (t.isAfter_later less)
  · exact isAfter_self _

/-- The moments of the line are instants. -/
theorem later_fine (t : Instant) (nanos : Int) : (t.later nanos).nano < 2000000000 := by
  unfold later
  dsimp only
  split
  · dsimp only
    omega
  · split <;> dsimp only <;> omega

theorem later_zero {t : Instant} (fine : t.nano < 2000000000) : t.later 0 = t := by
  have same {second : Int} {nano : Nat} (whole : second = t.second) (rest : nano = t.nano) :
      (⟨second, nano⟩ : Instant) = t := by rw [whole, rest]
  by_cases plain : t.nano < 1000000000
  · rw [later_ordinary (Or.inl plain)]
    exact same (by omega) (by omega)
  · rw [later_within (by omega) (by omega) (by omega)]
    exact same rfl (by omega)

/-! ## Spans of milliseconds -/

/-- A span is its whole seconds and a rest that has the same sign. -/
theorem span_parts (millis : Int) : ∃ rest : Int, millis = wholeSeconds millis * 1000 + rest ∧
    restNanos millis = rest * 1000000 ∧
    ((0 ≤ wholeSeconds millis ∧ 0 ≤ rest ∧ rest < 1000) ∨
      (wholeSeconds millis ≤ 0 ∧ -1000 < rest ∧ rest ≤ 0)) := by
  refine ⟨millis.tmod 1000, ?_, rfl, ?_⟩
  · rw [wholeSeconds, Int.mul_comm]
    exact (Int.mul_tdiv_add_tmod millis 1000).symm
  · unfold wholeSeconds
    rcases Int.le_total 0 millis with forwards | backwards
    · rw [Int.tdiv_eq_ediv_of_nonneg forwards, Int.tmod_eq_emod_of_nonneg forwards]
      omega
    · have opposite : 0 ≤ -millis := by omega
      rw [← Int.neg_neg millis, Int.neg_tdiv, Int.neg_tmod, Int.tdiv_eq_ediv_of_nonneg opposite,
        Int.tmod_eq_emod_of_nonneg opposite]
      omega

/-- What is carried keeps its place. -/
theorem carry_eq_some {second nano : Int} {e : Instant} (least : -1000000000 ≤ nano)
    (most : nano < 2000000000) (carried : carry second nano = some e) :
    e = ⟨second + nano / 1000000000, (nano % 1000000000).toNat⟩ := by
  have placed (s n : Int) (kept : (if inCalendar s then some (⟨s, n.toNat⟩ : Instant) else none) = some e)
      (quotient : s = second + nano / 1000000000) (rest : n = nano % 1000000000) :
      e = ⟨second + nano / 1000000000, (nano % 1000000000).toNat⟩ := by
    split at kept
    · rw [← quotient, ← rest]
      exact (Option.some.inj kept).symm
    · cases kept
  by_cases borrow : nano < 0
  · simp only [carry, if_pos borrow] at carried
    exact placed _ _ carried (by omega) (by omega)
  by_cases excess : nano ≥ 1000000000
  · simp only [carry, if_neg borrow, if_pos excess] at carried
    exact placed _ _ carried (by omega) (by omega)
  · simp only [carry, if_neg borrow, if_neg excess] at carried
    exact placed _ _ carried (by omega) (by omega)

/-- **A sum of an instant and a span is a moment of the line.** -/
theorem addMillis_eq_later {t e : Instant} {millis : Int} (fine : t.nano < 2000000000)
    (ends : t.addMillis millis = some e) : e = t.later (millis * 1000000) := by
  obtain ⟨rest, parts, nanos, sign⟩ := span_parts millis
  unfold addMillis at ends
  rw [nanos] at ends
  dsimp only at ends
  by_cases leap : t.nano ≥ 1000000000
  · rw [if_pos leap] at ends
    split at ends
    · -- The sum leaves the leap second forwards.
      next leaves =>
      simp only [Bool.or_eq_true, Bool.and_eq_true, decide_eq_true_eq] at leaves
      rw [carry_eq_some (by omega) (by omega) ends, later_beyond leap (by omega)]
      simp only [mk.injEq]
      omega
    · next stays =>
      simp only [Bool.or_eq_true, Bool.and_eq_true, decide_eq_true_eq] at stays
      split at ends
      · -- It leaves the leap second backwards.
        next backwards =>
        rw [carry_eq_some (by omega) (by omega) ends, later_ordinary (by omega)]
        simp only [mk.injEq]
        omega
      · -- It stays in the leap second, or ends in the second that the leap second prolongs.
        next noSecond =>
        have whole : wholeSeconds millis = 0 := by omega
        split at ends
        · cases ends
          by_cases before : (t.nano : Int) + rest * 1000000 < 1000000000
          · rw [later_ordinary (Or.inr (by omega))]
            simp only [mk.injEq]
            omega
          · rw [later_within leap (by omega) (by omega)]
            simp only [mk.injEq, true_and]
            omega
        · cases ends
  · rw [if_neg leap] at ends
    rw [carry_eq_some (by omega) (by omega) ends, later_ordinary (by omega)]
    simp only [mk.injEq]
    omega

end ApprovalDesk.Time.Instant
