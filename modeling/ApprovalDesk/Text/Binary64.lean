import ApprovalDesk.Text.Decimal

/-!
# Binary floating-point numbers of 64 bits

A positive finite number is a mantissa below 2^53 times a power of two. Quotients are rounded to the
nearest such number, ties to the even mantissa. The decimal text of a number has the fewest digits
that read back as it, and of these the ones nearest to it.
-/

namespace ApprovalDesk.Text

set_option autoImplicit false

/-- The magnitude `mantissa * 2 ^ exponent` of a finite number. -/
structure Binary64 where
  mantissa : Nat
  exponent : Int
  deriving DecidableEq, Repr

namespace Binary64

/-- The least exponent, that of the subnormal numbers. -/
def leastExponent : Int := -1074

/-- The greatest exponent of a finite number. -/
def greatestExponent : Int := 971

/-- The bit of a mantissa that is not stored, 2^52. -/
def hiddenBit : Nat := 0x10000000000000

def zero : Binary64 := ⟨0, leastExponent⟩

/-- The quotient of two numbers rounded to the nearest integer, ties to even. -/
def roundDiv (num den : Nat) : Nat :=
  let q := num / den
  let r := num % den
  if 2 * r < den then q else if den < 2 * r then q + 1 else if q % 2 = 0 then q else q + 1

/-- The number as a quotient. -/
def toRatio (x : Binary64) : Nat × Nat :=
  if 0 ≤ x.exponent then (x.mantissa * Nat.pow 2 x.exponent.toNat, 1)
  else (x.mantissa, Nat.pow 2 (-x.exponent).toNat)

/-- The number nearest to `num / den`, or nothing if it would be infinite. -/
def ofRatio (num den : Nat) : Option Binary64 :=
  if num = 0 then some zero
  else
    let guess : Int := (Nat.log2 num : Int) - Nat.log2 den
    let reaches :=
      if 0 ≤ guess then den * Nat.pow 2 guess.toNat ≤ num else den ≤ num * Nat.pow 2 (-guess).toNat
    let top := if reaches then guess else guess - 1
    let q := max leastExponent (top - 52)
    let m :=
      if 0 ≤ q then roundDiv num (den * Nat.pow 2 q.toNat)
      else roundDiv (num * Nat.pow 2 (-q).toNat) den
    let x : Binary64 := if m = 2 * hiddenBit then ⟨hiddenBit, q + 1⟩ else ⟨m, q⟩
    if greatestExponent < x.exponent then none else some x

/-- The number nearest to a natural number. -/
def ofNat (n : Nat) : Option Binary64 := ofRatio n 1

def mul (x y : Binary64) : Option Binary64 :=
  let (a, b) := x.toRatio
  let (c, d) := y.toRatio
  ofRatio (a * c) (b * d)

def div (x y : Binary64) : Option Binary64 :=
  let (a, b) := x.toRatio
  let (c, d) := y.toRatio
  ofRatio (a * d) (b * c)

/-- The significand scaled by a power of ten: both are rounded first, then their product or
quotient; a scale below 10^-308 is applied in two steps. -/
def scaled (significand : Nat) (scale : Int) : Option Binary64 :=
  (ofNat significand).bind fun f =>
    if f.mantissa = 0 then some zero
    else if 308 < scale then none
    else if 0 ≤ scale then (ofNat (Nat.pow 10 scale.toNat)).bind f.mul
    else if -308 ≤ scale then (ofNat (Nat.pow 10 (-scale).toNat)).bind f.div
    else
      ((ofNat (Nat.pow 10 308)).bind f.div).bind fun g =>
        if scale + 308 < -308 then some zero
        else (ofNat (Nat.pow 10 (-(scale + 308)).toNat)).bind g.div

/-- The stored bits, without a sign. -/
def toBits (x : Binary64) : Nat :=
  if x.mantissa < hiddenBit then x.mantissa
  else ((x.exponent + 1075).toNat) * hiddenBit + (x.mantissa - hiddenBit)

/-- The magnitude with the stored bits, the sign bit left aside. -/
def ofBits (bits : Nat) : Binary64 :=
  let e : Nat := bits / hiddenBit % 2048
  let m := bits % hiddenBit
  if e = 0 then ⟨m, leastExponent⟩ else ⟨m + hiddenBit, (e : Int) - 1075⟩

/-! ## Shortest digits -/

/-- The power of ten of the first digit of a positive quotient. -/
def leadingPower (num den : Nat) : Int :=
  if den ≤ num then ((Decimal.ofNat (num / den)).length : Int) - 1
  else -((Decimal.ofNat ((den + num - 1) / num - 1)).length : Int)

/-- The least and the greatest quotient that round to the number, in quarters of its last place. -/
def quarterBounds (x : Binary64) : Nat × Nat :=
  let below := if x.mantissa = hiddenBit ∧ x.exponent ≠ leastExponent then 1 else 2
  (4 * x.mantissa - below, 4 * x.mantissa + 2)

/-- The point nearest to the number among those with `unit = 10 ^ power` that read back as it. -/
def nearestOnGrid (x : Binary64) (power : Int) : Option Nat :=
  let (num, den) := x.toRatio
  let (upNum, upDen) := 
    if 0 ≤ power then (1, Nat.pow 10 power.toNat) else (Nat.pow 10 (-power).toNat, 1)
  -- the number in units of the grid is `num * upNum / (den * upDen)`
  let n := num * upNum
  let d := den * upDen
  let (low, high) := quarterBounds x
  let (one, oneDen) := (Binary64.mk 1 x.exponent).toRatio
  let within (k : Nat) : Bool :=
    let value := 4 * k * upDen * oneDen
    let lowValue := low * one * upNum
    let highValue := high * one * upNum
    if x.mantissa % 2 = 0 then lowValue ≤ value && value ≤ highValue
    else lowValue < value && value < highValue
  let down := n / d
  let up := down + 1
  let r := n % d
  match within down, within up with
  | true, true => some (if 2 * r < d then down else if d < 2 * r then up
      else if down % 2 = 0 then down else up)
  | true, false => some down
  | false, true => some up
  | false, false => none

/-- The fewest digits that read back as the positive number, and the power of ten of the last one. -/
def shortest (x : Binary64) : Nat × Int :=
  let (num, den) := x.toRatio
  let top := leadingPower num den
  let tries := (List.range 18).filterMap fun (k : Nat) =>
    let power := top - (k : Int)
    (nearestOnGrid x power).map fun n => if n = Nat.pow 10 (k + 1) then (1, top + 1) else (n, power)
  tries.headD (num / den, 0)

end Binary64

end ApprovalDesk.Text
