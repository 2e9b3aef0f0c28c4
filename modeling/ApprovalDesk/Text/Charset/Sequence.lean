/-!
# Characters of several bytes

A set of this kind is a rule for the byte that a character begins with and the bytes after it: what
they stand for, and how many of the bytes after the first one belong to it. What stands for nothing
becomes U+FFFD. A byte of ASCII is never lost with it: after a lead byte that makes no character with
it, it is read afresh.
-/

namespace ApprovalDesk.Text.Charset

set_option autoImplicit false

/-- What stands in the place of bytes that cannot be read. -/
def unknown : Char := '\uFFFD'

/-- What the bytes stand for, and how many bytes after the first one are used up. -/
abbrev Rule := UInt8 → List UInt8 → List Char × Nat

/-- The characters of bytes by a rule. -/
def readAll (rule : Rule) : List UInt8 → List Char
  | [] => []
  | b :: rest =>
    let (cs, used) := rule b rest
    cs ++ readAll rule (rest.drop used)
termination_by bs => bs.length
decreasing_by simp only [List.length_cons, List.length_drop]; omega

/-- A character of one byte. -/
def single (c : Char) : List Char × Nat := ([c], 0)

/-- A byte of ASCII. -/
def ascii (b : UInt8) : List Char × Nat := single (Char.ofNat b.toNat)

/-- The bytes after a lead byte, by what the lead byte stands for together with the next one. -/
def readPair (pair : UInt8 → Option (List Char)) : List UInt8 → List Char × Nat
  | [] => ([unknown], 0)
  | b :: _ =>
    match pair b with
    | some cs => (cs, 1)
    | none => ([unknown], if b < 0x80 then 0 else 1)

/-- The place of a byte among those from `first` to `last`. -/
def placeIn? (first last b : UInt8) : Option Nat :=
  if first ≤ b ∧ b ≤ last then some (b.toNat - first.toNat) else none

/-- The place of a byte among those of two ranges, one after the other. -/
def placeInTwo? (first last first' last' b : UInt8) : Option Nat :=
  (placeIn? first last b).or
    ((placeIn? first' last' b).map (· + (last.toNat + 1 - first.toNat)))

end ApprovalDesk.Text.Charset
