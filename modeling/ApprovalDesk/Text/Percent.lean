import ApprovalDesk.Text.Hex
import ApprovalDesk.Text.Utf8

/-!
# Percent encoding

A byte that cannot stand in a text as it is becomes `%` and two upper-case hexadecimal digits. The
decoder turns every such group back into its byte, with digits in either case, and leaves a `%`
without two digits after it as it is.
-/

namespace ApprovalDesk.Text.Percent

set_option autoImplicit false

/-- The group of a byte. -/
def encodeByte (b : UInt8) : List Char := '%' :: Hex.upperByte b

/-- A character of the text: as it is if it is ASCII and `keep` holds of it, else the groups of its
bytes. -/
def encodeChar (keep : Char → Bool) (c : Char) : List Char :=
  if c.toNat < 0x80 && keep c then [c] else (String.utf8EncodeChar c).flatMap encodeByte

/-- A text with all but the ASCII characters of `keep` encoded. -/
def encode (keep : Char → Bool) (cs : List Char) : List Char := cs.flatMap (encodeChar keep)

/-- The value of a byte as a hexadecimal digit. -/
def hexValue? (b : UInt8) : Option Nat := Hex.value? (Char.ofNat b.toNat)

/-- Decodes the groups in a run of bytes. -/
def decode : List UInt8 → List UInt8
  | b :: x :: y :: rest =>
    match hexValue? x, hexValue? y with
    | some m, some n =>
      if b = 0x25 then UInt8.ofNat (16 * m + n) :: decode rest else b :: decode (x :: y :: rest)
    | _, _ => b :: decode (x :: y :: rest)
  | bs => bs

theorem decode_cons_of_ne {b : UInt8} (h : b ≠ 0x25) (bs : List UInt8) :
    decode (b :: bs) = b :: decode bs := by
  match bs with
  | [] => rfl
  | [_] => rfl
  | x :: y :: bs =>
    rw [decode]
    split <;> simp [h]

end ApprovalDesk.Text.Percent
