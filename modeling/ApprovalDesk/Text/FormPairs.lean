import ApprovalDesk.Text.Percent

/-!
# Pairs in the form encoding

Names and values as browsers send them (`application/x-www-form-urlencoded`): `name=value` pairs
joined by `&`. Letters, digits and `* - . _` stand for themselves, a blank is `+`, every other byte is
percent-encoded. The reader skips empty pairs, takes a pair without `=` as a name with an empty value
and puts U+FFFD in place of bytes that are no UTF-8.
-/

namespace ApprovalDesk.Text.FormPairs

set_option autoImplicit false

/-- A character that stands for itself. -/
def isPlain (c : Char) : Bool :=
  c.isAlphanum || c == '*' || c == '-' || c == '.' || c == '_'

/-- A character of a name or a value. -/
def encodeChar (c : Char) : List Char := if c = ' ' then ['+'] else Percent.encodeChar isPlain c

/-- A name or a value. -/
def encodeText (s : String) : List Char := s.toList.flatMap encodeChar

/-- A pair. -/
def encodePair (p : String × String) : List Char := encodeText p.1 ++ '=' :: encodeText p.2

/-- Puts a pair after those that are there already. -/
def append (query : List Char) (p : String × String) : List Char :=
  if query.isEmpty then encodePair p else query ++ '&' :: encodePair p

/-- Pairs joined by `&`. -/
def encode (pairs : List (String × String)) : List Char := pairs.foldl append []

/-- The runs of bytes between the bytes `sep`. -/
def splitAll (sep : UInt8) : List UInt8 → List (List UInt8)
  | [] => [[]]
  | b :: bs =>
    if b = sep then [] :: splitAll sep bs
    else match splitAll sep bs with
      | [] => [[b]]
      | run :: runs => (b :: run) :: runs

/-- The text of a name or a value. -/
def decodeText (bs : List UInt8) : String :=
  Utf8.decodeLossy (Percent.decode (bs.map fun b => if b = 0x2B then 0x20 else b))

/-- The name before the first `=` and the value after it. -/
def decodePair (bs : List UInt8) : String × String :=
  (decodeText (bs.takeWhile (· != 0x3D)), decodeText ((bs.dropWhile (· != 0x3D)).drop 1))

/-- The pairs in a run of bytes. -/
def decode (bs : List UInt8) : List (String × String) :=
  ((splitAll 0x26 bs).filter (!·.isEmpty)).map decodePair

end ApprovalDesk.Text.FormPairs
