import ApprovalDesk.Text.Charset.Hangul.Table
import ApprovalDesk.Text.Charset.Sequence

/-!
# The Korean character set

EUC-KR with all Hangul syllables: a character that is not of ASCII takes two bytes.
-/

namespace ApprovalDesk.Text.Charset

set_option autoImplicit false

/-- The character of a lead byte and the byte after it. -/
def hangulPair (lead b : UInt8) : Option (List Char) :=
  (placeIn? 0x41 0xFE b).bind fun column =>
    (unifiedHangul.char? ((lead.toNat - 0x81) * 190 + column)).map fun c => [c]

/-- The rule of EUC-KR. -/
def eucKrRule : Rule := fun b rest =>
  if b < 0x80 then ascii b
  else if b == 0x80 || b == 0xFF then single unknown
  else readPair (hangulPair b) rest

end ApprovalDesk.Text.Charset
