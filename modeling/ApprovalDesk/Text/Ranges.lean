import ApprovalDesk.Text.Hex

/-!
# Ranges of characters

A set of characters is written as text: the code points in hexadecimal, ranges with a hyphen between
the first and the last, blanks and line ends in between.
-/

namespace ApprovalDesk.Text

set_option autoImplicit false

/-- Ranges of code points, each from its first to its last. -/
abbrev Ranges := List (Nat × Nat)

/-- The words of a text between blanks and line ends. -/
def words (cs : List Char) : List (List Char) :=
  let isGap (c : Char) : Bool := c == ' ' || c == '\n'
  (cs.splitBy fun a b => !isGap a && !isGap b).filter fun w => !w.any isGap

namespace Ranges

/-- A code point, or two with a hyphen between them. -/
def readRange? (w : List Char) : Option (Nat × Nat) :=
  let first := w.takeWhile (· != '-')
  match w.dropWhile (· != '-') with
  | [] => (Hex.number? first).map fun n => (n, n)
  | _ :: last => (Hex.number? first).bind fun n => (Hex.number? last).map fun m => (n, m)

/-- Reads ranges. -/
def read (s : String) : Ranges := (words s.toList).filterMap readRange?

/-- The code points of the ranges, one range after the other. -/
def codePoints (rs : Ranges) : List Nat := rs.flatMap fun r => List.range' r.1 (r.2 + 1 - r.1)

/-- A character in one of the ranges. -/
def contains (rs : Ranges) (c : Char) : Bool := rs.any fun r => r.1 ≤ c.toNat && c.toNat ≤ r.2

end Ranges

end ApprovalDesk.Text
