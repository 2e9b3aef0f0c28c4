/-!
# Hexadecimal digits

Bytes as pairs of digits in either case, and the value of a digit.
-/

namespace ApprovalDesk.Text.Hex

set_option autoImplicit false

/-- The lower-case digit of a value below 16. -/
def digit (n : Nat) : Char :=
  if n < 10 then Char.ofNat (0x30 + n) else Char.ofNat (0x57 + n)

/-- The upper-case digit of a value below 16. -/
def upperDigit (n : Nat) : Char :=
  if n < 10 then Char.ofNat (0x30 + n) else Char.ofNat (0x37 + n)

/-- The value of a digit in either case. -/
def value? (c : Char) : Option Nat :=
  if '0' ≤ c ∧ c ≤ '9' then some (c.toNat - 0x30)
  else if 'a' ≤ c ∧ c ≤ 'f' then some (c.toNat - 0x57)
  else if 'A' ≤ c ∧ c ≤ 'F' then some (c.toNat - 0x37)
  else none

/-- A digit in either case. -/
def isDigit (c : Char) : Bool := (value? c).isSome

/-- The two lower-case digits of a byte. -/
def byte (b : UInt8) : List Char := [digit (b.toNat / 16), digit (b.toNat % 16)]

/-- The two upper-case digits of a byte. -/
def upperByte (b : UInt8) : List Char := [upperDigit (b.toNat / 16), upperDigit (b.toNat % 16)]

/-- The lower-case digits of bytes, two for each. -/
def encode (bs : List UInt8) : List Char := bs.flatMap byte

/-- The bytes of an even number of digits. -/
def decode? : List Char → Option (List UInt8)
  | [] => some []
  | [_] => none
  | a :: b :: rest =>
    match value? a, value? b, decode? rest with
    | some x, some y, some bs => some (UInt8.ofNat (16 * x + y) :: bs)
    | _, _, _ => none

/-- The value of a run of digits, most significant first. -/
def number? (cs : List Char) : Option Nat :=
  cs.foldl (fun acc c => acc.bind fun n => (value? c).map (16 * n + ·)) (some 0)

/-- The lower-case digits of a number without leading zeros, `0` for zero. -/
def ofNat (n : Nat) : List Char :=
  if n < 16 then [digit n] else ofNat (n / 16) ++ [digit (n % 16)]
termination_by n

/-- The lower-case digits of a number, at least `width` of them. -/
def padded (width n : Nat) : List Char :=
  let ds := ofNat n
  List.replicate (width - ds.length) '0' ++ ds

theorem length_encode (bs : List UInt8) : (encode bs).length = 2 * bs.length := by
  induction bs with
  | nil => rfl
  | cons b bs ih => simp only [encode, List.flatMap_cons, List.length_append, byte] at ih ⊢; simp [ih]; omega

end ApprovalDesk.Text.Hex
