/-!
# Punycode

Labels of a domain name in ASCII (RFC 3492): the ASCII characters of the label, then a number for each
of the others in order of their values. A number says how many steps lie between two insertions, where
a step passes one place of the label; it is written in a mixed base whose digit limits follow a bias
that is adapted after each number.
-/

namespace ApprovalDesk.Url.Punycode

set_option autoImplicit false

/-- The digit of a value below 36. -/
def digit (n : Nat) : Char := if n < 26 then Char.ofNat (0x61 + n) else Char.ofNat (0x30 + n - 26)

/-- The value of a digit. -/
def value? (c : Char) : Option Nat :=
  if 'a' ≤ c ∧ c ≤ 'z' then some (c.toNat - 0x61)
  else if 'A' ≤ c ∧ c ≤ 'Z' then some (c.toNat - 0x41)
  else if '0' ≤ c ∧ c ≤ '9' then some (c.toNat - 0x30 + 26)
  else none

/-- The limit of the digit at position `k`, counted in steps of 36; a digit below it is the last. -/
def limit (k bias : Nat) : Nat := max 1 (min 26 (k - bias))

/-- Divides by 35 until the number is at most 455, and counts 36 for each division. -/
def scaleDown (delta k : Nat) : Nat × Nat :=
  if 455 < delta then scaleDown (delta / 35) (k + 36) else (delta, k)
termination_by delta
decreasing_by exact Nat.div_lt_self (by omega) (by omega)

/-- The bias after a number, with `points` characters placed by then. -/
def adapt (delta points : Nat) (first : Bool) : Nat :=
  let delta := if first then delta / 700 else delta / 2
  let (delta, k) := scaleDown (delta + delta / points) 0
  k + 36 * delta / (delta + 38)

/-! ## Writing -/

/-- The digits of a number from position `k` on. -/
def numberDigits (bias k n : Nat) : List Char :=
  let t := limit k bias
  if n < t then [digit n]
  else digit (t + (n - t) % (36 - t)) :: numberDigits bias (k + 36) ((n - t) / (36 - t))
termination_by n
decreasing_by
  have : 1 ≤ limit k bias := by unfold limit; omega
  calc (n - limit k bias) / (36 - limit k bias)
      ≤ n - limit k bias := Nat.div_le_self _ _
    _ < n := by omega

/-- How far the writer has got: the output, the steps since the last insertion, the bias, and the
number of characters placed. -/
structure Writer where
  out : List Char
  delta : Nat
  bias : Nat
  placed : Nat

/-- Passes a character of the label in the round for the characters of value `m`. -/
def Writer.pass (plain m : Nat) (w : Writer) (c : Char) : Writer :=
  if c.toNat < m then { w with delta := w.delta + 1 }
  else if c.toNat = m then
    { out := w.out ++ numberDigits w.bias 36 w.delta
      delta := 0
      bias := adapt w.delta (w.placed + 1) (w.placed == plain)
      placed := w.placed + 1 }
  else w

/-- Runs the rounds for the values in `points`, in ascending order, from the value `n` on. -/
def Writer.rounds (label : List Char) (plain : Nat) : List Nat → Nat → Writer → Writer
  | [], _, w => w
  | m :: points, n, w =>
    let w := { w with delta := w.delta + (m - n) * (w.placed + 1) }
    let w := label.foldl (Writer.pass plain m) w
    Writer.rounds label plain points (m + 1) { w with delta := w.delta + 1 }

/-- Puts a number into a list in ascending order, once. -/
def insertOnce (n : Nat) : List Nat → List Nat
  | [] => [n]
  | m :: ms => if n < m then n :: m :: ms else if n = m then m :: ms else m :: insertOnce n ms

/-- A label in ASCII. -/
def encode (label : List Char) : List Char :=
  let plain := label.filter (·.toNat < 0x80)
  let points := (label.filter (0x80 ≤ ·.toNat)).foldl (fun ps c => insertOnce c.toNat ps) []
  let start := if plain.isEmpty then [] else plain ++ ['-']
  (Writer.rounds label plain.length points 0x80 ⟨start, 0, 72, plain.length⟩).out

/-! ## Reading -/

/-- The numbers and weights that a reader takes are below this one. -/
def bound : Nat := 0x100000000

/-- Reads the digits of a number from position `k` on, each worth `weight` more, on top of `acc`. -/
def readNumber (bias : Nat) : Nat → Nat → Nat → List Char → Option (Nat × List Char)
  | _, _, _, [] => none
  | k, weight, acc, c :: rest =>
    match value? c with
    | none => none
    | some d =>
      let t := limit k bias
      let acc := acc + d * weight
      if bound ≤ acc ∨ bound ≤ weight then none
      else if d < t then some (acc, rest)
      else readNumber bias (k + 36) (weight * (36 - t)) acc rest

theorem readNumber_shorter {bias k weight acc n : Nat} {cs rest : List Char}
    (h : readNumber bias k weight acc cs = some (n, rest)) : rest.length < cs.length := by
  induction cs generalizing k weight acc with
  | nil => simp [readNumber] at h
  | cons c cs ih =>
    unfold readNumber at h
    split at h
    · simp at h
    · simp only at h
      split at h
      · simp at h
      · split at h
        · simp only [Option.some.injEq, Prod.mk.injEq] at h
          simp [← h.2]
        · have := ih h
          simp only [List.length_cons]
          omega

/-- A number that is the value of a character. -/
def char? (n : Nat) : Option Char := if h : n.isValidChar then some (Char.ofNatAux n h) else none

/-- Places the characters that the numbers in `cs` tell: the next one has at least the value `n` and
goes at least to the place `i`. -/
def placeAll (label : List Char) (n i bias : Nat) (first : Bool) (cs : List Char) :
    Option (List Char) :=
  match cs with
  | [] => some label
  | c :: rest =>
    match _h : readNumber bias 36 1 i (c :: rest) with
    | none => none
    | some (at_, tail) =>
      let size := label.length + 1
      let bias := adapt (at_ - i) size first
      let n := n + at_ / size
      let i := at_ % size
      match char? n with
      | none => none
      | some x => placeAll (label.take i ++ x :: label.drop i) n (i + 1) bias false tail
termination_by cs.length
decreasing_by exact readNumber_shorter _h

/-- The label that ASCII characters stand for, if they stand for one. A hyphen with nothing before it
ends no part and is no digit. -/
def decode? (cs : List Char) : Option (List Char) :=
  let reversed := cs.reverse
  let tail := (reversed.takeWhile (· != '-')).reverse
  let plain := ((reversed.dropWhile (· != '-')).drop 1).reverse
  if cs.any (0x80 ≤ ·.toNat) || (plain.isEmpty && cs.contains '-') then none
  else placeAll plain 0x80 0 72 true tail

end ApprovalDesk.Url.Punycode
