/-!
# Blank characters and trimming

The blank characters are those with the Unicode property `White_Space`. A text is blank when it has
no other character; trimming drops the blank characters at both ends and nothing else, so a trimmed
text is blank only if it is empty.
-/

namespace ApprovalDesk.Text

set_option autoImplicit false

/-- A character with the Unicode property `White_Space`. -/
def isBlank (c : Char) : Bool :=
  let n := c.toNat
  (9 ≤ n && n ≤ 13) || n == 0x20 || n == 0x85 || n == 0xA0 || n == 0x1680 ||
    (0x2000 ≤ n && n ≤ 0x200A) || n == 0x2028 || n == 0x2029 || n == 0x202F || n == 0x205F ||
    n == 0x3000

/-- Drops the blank characters in front. -/
def trimStartChars (cs : List Char) : List Char := cs.dropWhile isBlank

/-- Drops the blank characters at the end. -/
def trimEndChars (cs : List Char) : List Char := (cs.reverse.dropWhile isBlank).reverse

/-- Drops the blank characters at both ends. -/
def trimChars (cs : List Char) : List Char := trimEndChars (trimStartChars cs)

/-- Drops the blank characters at both ends of a text. -/
def trim (s : String) : String := String.ofList (trimChars s.toList)

/-- A text without any character that is not blank. -/
def isBlankText (s : String) : Bool := (trim s).isEmpty

end ApprovalDesk.Text
