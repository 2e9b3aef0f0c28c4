import ApprovalDesk.Text.Glyphless
import ApprovalDesk.Text.Hex

/-!
# Quoted text for diagnostics

A text between double quotes in which every character can be told by sight: the quote and the
backslash are escaped, and so are the characters without a glyph of their own, the common ones by a
letter and the others by their number.
-/

namespace ApprovalDesk.Text.Quoted

set_option autoImplicit false

/-- A character inside the quotes. -/
def encodeChar (c : Char) : List Char :=
  match c with
  | '\x00' => ['\\', '0']
  | '\t' => ['\\', 't']
  | '\n' => ['\\', 'n']
  | '\r' => ['\\', 'r']
  | '"' => ['\\', '"']
  | '\\' => ['\\', '\\']
  | c => if isGlyphless c then '\\' :: 'u' :: '{' :: Hex.ofNat c.toNat ++ ['}'] else [c]

/-- A text between quotes. -/
def encode (s : String) : String := String.ofList ('"' :: s.toList.flatMap encodeChar ++ ['"'])

end ApprovalDesk.Text.Quoted
