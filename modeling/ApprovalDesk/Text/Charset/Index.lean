import ApprovalDesk.Text.Decimal
import ApprovalDesk.Text.Ranges

/-!
# Numbered characters

The sets in which some characters take several bytes number these characters. Such an index is written
as text: runs of characters, each after the number of its first one and a colon, with blanks and line
ends in between. In a run a hyphen between two characters stands for those that lie between them.
-/

namespace ApprovalDesk.Text.Charset

set_option autoImplicit false

/-- Characters by their numbers. -/
structure Index where
  places : Array (Option Char)

namespace Index

/-- The character of a number. -/
def char? (index : Index) (n : Nat) : Option Char := index.places[n]?.join

/-- The characters of a run, those for which a hyphen stands among them. -/
def expand : List Char → List Char
  | first :: '-' :: last :: rest =>
    (List.range (last.toNat + 1 - first.toNat)).map (fun k => Char.ofNat (first.toNat + k)) ++
      expand rest
  | c :: rest => c :: expand rest
  | [] => []

/-- Reads a run. -/
def readRun? (w : List Char) : Option (Nat × List Char) :=
  (Decimal.number? (w.takeWhile (· != ':'))).map fun n =>
    (n, expand ((w.dropWhile (· != ':')).drop 1))

/-- Puts a run behind the characters that an index has, from its number on. -/
def append (index : Index) (run : Nat × List Char) : Index where
  places := index.places ++ Array.replicate (run.1 - index.places.size) none ++
    (run.2.map some).toArray

/-- Reads an index whose runs are in order. -/
def read (s : String) : Index := ((words s.toList).filterMap readRun?).foldl append ⟨#[]⟩

end Index

end ApprovalDesk.Text.Charset
