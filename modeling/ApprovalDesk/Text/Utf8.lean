/-!
# UTF-8

Text as bytes and back. The reader walks over the bytes once and yields one unit for each character
and one for each maximal piece that belongs to no character; the strict reader refuses any such
piece, the lenient one puts U+FFFD in its place.
-/

namespace ApprovalDesk.Text.Utf8

set_option autoImplicit false

/-- The bytes of a list of characters. -/
def encodeChars (cs : List Char) : List UInt8 := cs.flatMap String.utf8EncodeChar

/-- The bytes of a text. -/
def encode (s : String) : List UInt8 := encodeChars s.toList

/-- Where the reader stands inside a character. -/
inductive Phase where
  /-- Between two characters. -/
  | fresh
  /-- `need` more bytes are due, the next of them from `lo` to `hi`; `acc` is the value so far. -/
  | inside (need : Nat) (lo hi : UInt8) (acc : Nat)
  deriving DecidableEq, Repr

/-- A byte between two characters: what it yields by itself and where the reader stands after it. -/
def lead (b : UInt8) : List (Option Char) × Phase :=
  if b < 0x80 then ([some (Char.ofNat b.toNat)], .fresh)
  else if b < 0xC2 then ([none], .fresh)
  else if b < 0xE0 then ([], .inside 1 0x80 0xBF (b.toNat - 0xC0))
  else if b < 0xF0 then
    ([], .inside 2 (if b == 0xE0 then 0xA0 else 0x80) (if b == 0xED then 0x9F else 0xBF)
      (b.toNat - 0xE0))
  else if b < 0xF5 then
    ([], .inside 3 (if b == 0xF0 then 0x90 else 0x80) (if b == 0xF4 then 0x8F else 0xBF)
      (b.toNat - 0xF0))
  else ([none], .fresh)

/-- One byte: what it yields and where the reader stands after it. A byte that cannot continue the
character ends it as a piece without meaning and is then read afresh. -/
def feed (phase : Phase) (b : UInt8) : List (Option Char) × Phase :=
  match phase with
  | .fresh => lead b
  | .inside need lo hi acc =>
    if lo ≤ b && b ≤ hi then
      let acc := acc * 64 + (b.toNat - 0x80)
      match need with
      | 0 | 1 => ([some (Char.ofNat acc)], .fresh)
      | n + 1 => ([], .inside n 0x80 0xBF acc)
    else
      let (out, next) := lead b
      (none :: out, next)

/-- Reads from a given phase. A character cut off by the end is one piece without meaning. -/
def unitsFrom (phase : Phase) : List UInt8 → List (Option Char)
  | [] => match phase with
    | .fresh => []
    | .inside .. => [none]
  | b :: bs =>
    let (out, next) := feed phase b
    out ++ unitsFrom next bs

/-- The characters of `bs`, with `none` for each maximal piece that belongs to no character. -/
def units (bs : List UInt8) : List (Option Char) := unitsFrom .fresh bs

/-- All units as characters, or nothing if one of them is no character. -/
def allChars : List (Option Char) → Option (List Char)
  | [] => some []
  | some c :: us => (allChars us).map (c :: ·)
  | none :: _ => none

/-- The characters of well-formed bytes. -/
def decodeChars? (bs : List UInt8) : Option (List Char) := allChars (units bs)

/-- The text of well-formed bytes. -/
def decode? (bs : List UInt8) : Option String := (decodeChars? bs).map String.ofList

/-- The characters of any bytes, with U+FFFD for each piece that belongs to no character. -/
def decodeCharsLossy (bs : List UInt8) : List Char := (units bs).map (·.getD '\uFFFD')

/-- The text of any bytes, with U+FFFD for each piece that belongs to no character. -/
def decodeLossy (bs : List UInt8) : String := String.ofList (decodeCharsLossy bs)

end ApprovalDesk.Text.Utf8
