import ApprovalDesk.Proofs.Text.Utf8
import ApprovalDesk.Text.Percent

/-!
# Percent groups

A text in percent encoding consists of characters that are kept and of groups, each a percent sign with
two digits. A group is decoded to its byte, and a text of kept characters is its own encoding.
-/

namespace ApprovalDesk.Text.Percent

set_option autoImplicit false

/-! ## Groups -/

/-- The byte of an upper-case hexadecimal digit. -/
def digitByte (n : Nat) : UInt8 := UInt8.ofNat (Hex.upperDigit n).toNat

theorem encodeChar_upperDigit : ∀ n < 16, String.utf8EncodeChar (Hex.upperDigit n) = [digitByte n] := by
  decide

theorem hexValue?_digitByte : ∀ n < 16, hexValue? (digitByte n) = some n := by decide

/-- The bytes of the group of a byte. -/
theorem encodeChars_encodeByte (b : UInt8) : Utf8.encodeChars (encodeByte b) =
    [0x25, digitByte (b.toNat / 16), digitByte (b.toNat % 16)] := by
  have bound : b.toNat < 256 := b.toNat_lt
  have high := encodeChar_upperDigit (b.toNat / 16) (by omega)
  have low := encodeChar_upperDigit (b.toNat % 16) (by omega)
  have sign : String.utf8EncodeChar '%' = [0x25] := by decide
  simp only [Utf8.encodeChars, encodeByte, Hex.upperByte, List.flatMap_cons, List.flatMap_nil, sign, high,
    low, List.append_nil, List.singleton_append]

/-- A group is decoded to its byte. -/
theorem decode_encodeByte (b : UInt8) (rest : List UInt8) :
    decode (Utf8.encodeChars (encodeByte b) ++ rest) = b :: decode rest := by
  have bound : b.toNat < 256 := b.toNat_lt
  have high := hexValue?_digitByte (b.toNat / 16) (by omega)
  have low := hexValue?_digitByte (b.toNat % 16) (by omega)
  rw [encodeChars_encodeByte, List.cons_append, List.cons_append, List.singleton_append, decode, high, low]
  dsimp only
  rw [if_pos rfl, Nat.div_add_mod, UInt8.ofNat_toNat]

/-- A group consists of a percent sign and two digits. -/
theorem mem_group {b x : UInt8} (member : x ∈ Utf8.encodeChars (encodeByte b)) :
    x = 0x25 ∨ ∃ n < 16, x = digitByte n := by
  have bound : b.toNat < 256 := b.toNat_lt
  rw [encodeChars_encodeByte] at member
  rcases List.mem_cons.1 member with rfl | member
  · exact Or.inl rfl
  rcases List.mem_cons.1 member with rfl | member
  · exact Or.inr ⟨_, by omega, rfl⟩
  · exact Or.inr ⟨_, by omega, List.mem_singleton.1 member⟩

/-! ## Encoded texts -/

variable {keep : Char → Bool} {cs : List Char}

/-- A character that is kept is written as it is. -/
theorem encodeChar_of_kept {c : Char} (ascii : c.toNat < 128) (kept : keep c = true) :
    encodeChar keep c = [c] := by
  rw [encodeChar, if_pos]
  exact Bool.and_eq_true_iff.2 ⟨decide_eq_true ascii, kept⟩

/-- A text of characters that are kept is written as it is. -/
theorem encode_of_kept (kept : ∀ c ∈ cs, c.toNat < 128 ∧ keep c = true) : encode keep cs = cs := by
  induction cs with
  | nil => rfl
  | cons c cs ih =>
    obtain ⟨ascii, own⟩ := kept c List.mem_cons_self
    rw [encode, List.flatMap_cons, encodeChar_of_kept ascii own, List.singleton_append]
    exact congrArg (c :: ·) (ih fun d member => kept d (List.mem_cons_of_mem c member))

/-- What is written is a character that is kept, or part of a group. -/
theorem mem_encode {c : Char} (member : c ∈ encode keep cs) :
    (c ∈ cs ∧ keep c = true) ∨ c = '%' ∨ ∃ n < 16, c = Hex.upperDigit n := by
  obtain ⟨d, source, written⟩ := List.mem_flatMap.1 member
  unfold encodeChar at written
  split at written
  · next kept =>
    rw [List.mem_singleton.1 written]
    exact Or.inl ⟨source, (Bool.and_eq_true_iff.1 kept).2⟩
  · obtain ⟨b, -, group⟩ := List.mem_flatMap.1 written
    have bound : b.toNat < 256 := b.toNat_lt
    rcases List.mem_cons.1 group with sign | digit
    · exact Or.inr (Or.inl sign)
    rcases List.mem_cons.1 digit with high | low
    · exact Or.inr (Or.inr ⟨_, by omega, high⟩)
    · exact Or.inr (Or.inr ⟨_, by omega, List.mem_singleton.1 low⟩)

end ApprovalDesk.Text.Percent
