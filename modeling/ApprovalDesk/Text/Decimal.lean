/-!
# Decimal numbers

Numbers as decimal digits, with a least width filled by zeros, and the value of a run of digits.
-/

namespace ApprovalDesk.Text.Decimal

set_option autoImplicit false

/-- A decimal digit. -/
def isDigit (c : Char) : Bool := '0' ≤ c && c ≤ '9'

/-- The digit of a value below 10. -/
def digit (n : Nat) : Char := Char.ofNat (0x30 + n)

/-- The value of a digit. -/
def value (c : Char) : Nat := c.toNat - 0x30

/-- The digits of a number without leading zeros, `0` for zero. -/
def ofNat (n : Nat) : List Char :=
  if n < 10 then [digit n] else ofNat (n / 10) ++ [digit (n % 10)]
termination_by n

/-- The digits of a number, at least `width` of them. -/
def padded (width n : Nat) : List Char :=
  let ds := ofNat n
  List.replicate (width - ds.length) '0' ++ ds

/-- The digits of an integer, after `-` if it is negative. -/
def ofInt : Int → List Char
  | .ofNat n => ofNat n
  | .negSucc n => '-' :: ofNat (n + 1)

/-- The digits of an integer after its sign, which is `+` for zero. -/
def signed : Int → List Char
  | .ofNat n => '+' :: ofNat n
  | .negSucc n => '-' :: ofNat (n + 1)

/-- The value of a run of digits, most significant first. -/
def toNat (ds : List Char) : Nat := ds.foldl (fun n c => 10 * n + value c) 0

/-- The value of a text that is digits only and not empty. -/
def number? (cs : List Char) : Option Nat :=
  if cs.isEmpty || cs.any (fun c => !isDigit c) then none else some (toNat cs)

/-- The digits of a number as text. -/
def text (n : Nat) : String := String.ofList (ofNat n)

/-- The digits of an integer as text. -/
def intText (n : Int) : String := String.ofList (ofInt n)

/-- What holds of every digit holds of the digits of a number. -/
theorem forall_mem_ofNat {P : Char → Prop} (digits : ∀ d < 10, P (digit d)) (n : Nat) :
    ∀ c ∈ ofNat n, P c := by
  induction n using ofNat.induct with
  | case1 n small =>
    rw [ofNat, if_pos small]
    exact List.forall_mem_singleton.2 (digits n small)
  | case2 n large ih =>
    rw [ofNat, if_neg large, List.forall_mem_append]
    exact ⟨ih, List.forall_mem_singleton.2 (digits (n % 10) (Nat.mod_lt n (by decide)))⟩

end ApprovalDesk.Text.Decimal
