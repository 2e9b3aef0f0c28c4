import Mathlib.Algebra.Group.Nat.Defs
import ApprovalDesk.Text.Decimal

/-!
# Decimal digits read back

The digits of a number have its value, zeros in front do not change it, and a number below `10 ^ width`
has exactly `width` digits when it is padded.
-/

namespace ApprovalDesk.Text.Decimal

set_option autoImplicit false

theorem value_digit : ∀ d < 10, value (digit d) = d := by decide

theorem isDigit_digit : ∀ d < 10, isDigit (digit d) = true := by decide

/-! ## Values -/

theorem toNat_append_singleton (ds : List Char) (c : Char) :
    toNat (ds ++ [c]) = 10 * toNat ds + value c := by
  simp only [toNat, List.foldl_append, List.foldl_cons, List.foldl_nil]

/-- The digits of a number have its value. -/
theorem toNat_ofNat (n : Nat) : toNat (ofNat n) = n := by
  induction n using ofNat.induct with
  | case1 n small =>
    rw [ofNat, if_pos small, ← List.nil_append [digit n], toNat_append_singleton, value_digit n small]
    exact Nat.zero_add n
  | case2 n large ih =>
    have last : n % 10 < 10 := Nat.mod_lt n (by decide)
    rw [ofNat, if_neg large, toNat_append_singleton, ih, value_digit (n % 10) last]
    exact Nat.div_add_mod n 10

theorem toNat_zeros (count : Nat) (ds : List Char) :
    toNat (List.replicate count '0' ++ ds) = toNat ds := by
  induction count with
  | zero => rfl
  | succ count ih =>
    rw [List.replicate_succ, List.cons_append]
    exact ih

theorem toNat_padded (width n : Nat) : toNat (padded width n) = n := by
  unfold padded
  rw [toNat_zeros, toNat_ofNat]

/-! ## Digits -/

theorem forall_isDigit_padded (width n : Nat) : ∀ c ∈ padded width n, isDigit c = true := by
  unfold padded
  rw [List.forall_mem_append]
  constructor
  · intro c zero
    rw [List.eq_of_mem_replicate zero]
    rfl
  · exact forall_mem_ofNat isDigit_digit n

theorem ofNat_ne_nil (n : Nat) : ofNat n ≠ [] := by
  rw [ofNat]
  split
  · exact List.cons_ne_nil _ _
  · exact List.append_ne_nil_of_right_ne_nil _ (List.cons_ne_nil _ _)

theorem padded_ne_nil (width n : Nat) : padded width n ≠ [] :=
  List.append_ne_nil_of_right_ne_nil _ (ofNat_ne_nil n)

/-! ## Widths -/

/-- A number below `10 ^ width` has at most `width` digits. -/
theorem length_ofNat_le {width n : Nat} (positive : 0 < width) (bound : n < 10 ^ width) :
    (ofNat n).length ≤ width := by
  induction n using ofNat.induct generalizing width with
  | case1 n small =>
    rw [ofNat, if_pos small]
    exact positive
  | case2 n large ih =>
    obtain ⟨width, rfl⟩ : ∃ rest, width = rest + 1 := ⟨width - 1, by omega⟩
    rw [Nat.pow_succ] at bound
    have several : 0 < width := by
      apply Nat.pos_of_ne_zero
      intro none
      rw [none] at bound
      omega
    have shorter : (ofNat (n / 10)).length ≤ width := ih several (by omega)
    rw [ofNat, if_neg large, List.length_append, List.length_singleton]
    omega

theorem length_padded {width n : Nat} (positive : 0 < width) (bound : n < 10 ^ width) :
    (padded width n).length = width := by
  have fits := length_ofNat_le positive bound
  unfold padded
  rw [List.length_append, List.length_replicate]
  omega

end ApprovalDesk.Text.Decimal
