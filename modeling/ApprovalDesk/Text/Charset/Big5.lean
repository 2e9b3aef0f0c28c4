import ApprovalDesk.Text.Charset.Big5.Table
import ApprovalDesk.Text.Charset.Sequence

/-!
# The traditional Chinese character set

Big5 with the Hong Kong supplement: what is not of ASCII takes two bytes. Four pairs of bytes stand for
a letter and a mark that no one character stands for.
-/

namespace ApprovalDesk.Text.Charset

set_option autoImplicit false

/-- The letters with a mark of their own. -/
def markedLetters : List (Nat × List Char) := [
  (1133, ['\u00CA', '\u0304']), (1135, ['\u00CA', '\u030C']),
  (1164, ['\u00EA', '\u0304']), (1166, ['\u00EA', '\u030C'])]

/-- The characters of a lead byte and the byte after it. -/
def big5Pair (lead b : UInt8) : Option (List Char) :=
  (placeInTwo? 0x40 0x7E 0xA1 0xFE b).bind fun column =>
    let n := (lead.toNat - 0x81) * 157 + column
    (markedLetters.lookup n).or ((hongKong.char? n).map fun c => [c])

/-- The rule of Big5. -/
def big5Rule : Rule := fun b rest =>
  if b < 0x80 then ascii b
  else if b == 0x80 || b == 0xFF then single unknown
  else readPair (big5Pair b) rest

end ApprovalDesk.Text.Charset
