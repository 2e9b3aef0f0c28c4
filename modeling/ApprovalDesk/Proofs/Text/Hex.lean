import ApprovalDesk.Text.Hex

/-!
# Hexadecimal digits read back

A digit has its value, so a byte has the value of its two digits, and bytes are read back from the digits
they are written with.
-/

namespace ApprovalDesk.Text.Hex

set_option autoImplicit false

theorem padded_four {n : Nat} (control : n < 0x20) :
    padded 4 n = ['0', '0', digit (n / 16), digit (n % 16)] := by
  rw [padded, ofNat]
  by_cases small : n < 16
  · rw [if_pos small, Nat.div_eq_of_lt small, Nat.mod_eq_of_lt small]
    rfl
  · rw [if_neg small, ofNat, if_pos (show n / 16 < 16 by omega)]
    rfl

theorem value?_digit : ∀ d < 16, value? (digit d) = some d := by decide

/-- The digits of a number below 256 give it back. -/
theorem number?_digits {n : Nat} (byte : n < 256) :
    number? ['0', '0', digit (n / 16), digit (n % 16)] = some n := by
  have zero : value? '0' = some 0 := rfl
  simp only [number?, List.foldl_cons, List.foldl_nil, Option.bind_some, zero, Option.map_some,
    value?_digit (n / 16) (by omega), value?_digit (n % 16) (by omega), Option.some.injEq]
  omega

/-! ## Bytes -/

theorem utf8Size_digit : ∀ d < 16, (digit d).utf8Size = 1 := by decide

/-- What holds of every digit holds of the digits of bytes. -/
theorem forall_mem_encode {P : Char → Prop} (digits : ∀ d < 16, P (digit d)) (bs : List UInt8) :
    ∀ c ∈ encode bs, P c := by
  intro c written
  obtain ⟨b, -, inByte⟩ := List.mem_flatMap.1 written
  have bound := b.toNat_lt
  rw [byte, List.mem_cons, List.mem_singleton] at inByte
  rcases inByte with rfl | rfl
  · exact digits _ (by omega)
  · exact digits _ (by omega)

/-- Bytes are read back from their digits. -/
theorem decode?_encode (bs : List UInt8) : decode? (encode bs) = some bs := by
  induction bs with
  | nil => rfl
  | cons b bs ih =>
    have bound := b.toNat_lt
    have high := value?_digit (b.toNat / 16) (by omega)
    have low := value?_digit (b.toNat % 16) (by omega)
    have whole : 16 * (b.toNat / 16) + b.toNat % 16 = b.toNat := Nat.div_add_mod _ _
    have digits : encode (b :: bs) = digit (b.toNat / 16) :: digit (b.toNat % 16) :: encode bs := rfl
    rw [digits, decode?, high, low, ih]
    dsimp only
    rw [whole, UInt8.ofNat_toNat]

end ApprovalDesk.Text.Hex
