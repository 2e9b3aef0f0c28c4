import ApprovalDesk.Text.Charset.Jis.Table
import ApprovalDesk.Text.Charset.Sequence

/-!
# Japanese character sets

Three ways to put the Japanese characters into bytes: Shift_JIS and EUC-JP mark the first byte of a
character by its value, ISO-2022-JP switches between sets by escape sequences.
-/

namespace ApprovalDesk.Text.Charset

set_option autoImplicit false

/-- The halfwidth katakana at a place. -/
def katakana (n : Nat) : Char := Char.ofNat (0xFF61 + n)

/-! ## Shift_JIS -/

/-- The characters of private use, in a part of the rows that has no characters of its own. -/
def shiftJisPrivate? (n : Nat) : Option Char :=
  if 8836 ≤ n ∧ n ≤ 10715 then some (Char.ofNat (0xE000 + (n - 8836))) else none

/-- The character of a lead byte and the byte after it. -/
def shiftJisPair (lead b : UInt8) : Option (List Char) :=
  (placeInTwo? 0x40 0x7E 0x80 0xFC b).bind fun column =>
    let n := (lead.toNat - (if lead < 0xA0 then 0x81 else 0xC1)) * 188 + column
    ((shiftJisPrivate? n).or (jis0208.char? n)).map fun c => [c]

/-- The rule of Shift_JIS. -/
def shiftJisRule : Rule := fun b rest =>
  if b ≤ 0x80 then ascii b
  else match placeIn? 0xA1 0xDF b with
    | some n => single (katakana n)
    | none =>
      if b == 0xA0 || 0xFC < b then single unknown else readPair (shiftJisPair b) rest

/-! ## EUC-JP -/

/-- The character of two bytes in rows of 94. -/
def jisPair (index : Index) (lead b : UInt8) : Option (List Char) :=
  (placeIn? 0xA1 0xFE lead).bind fun row => (placeIn? 0xA1 0xFE b).bind fun column =>
    (index.char? (row * 94 + column)).map fun c => [c]

/-- The rule of EUC-JP: after 0x8E comes a katakana, after 0x8F a supplementary character. -/
def eucJpRule : Rule := fun b rest =>
  if b < 0x80 then ascii b
  else if b == 0x8E then
    readPair (fun b => (placeIn? 0xA1 0xDF b).map fun n => [katakana n]) rest
  else if b == 0x8F then
    match rest with
    | lead :: rest =>
      if (placeIn? 0xA1 0xFE lead).isSome then
        let (cs, used) := readPair (jisPair jis0212 lead) rest
        (cs, used + 1)
      else ([unknown], if lead < 0x80 then 0 else 1)
    | [] => single unknown
  else if (placeIn? 0xA1 0xFE b).isSome then readPair (jisPair jis0208 b) rest
  else single unknown

/-! ## ISO-2022-JP -/

/-- The set that the bytes are in. -/
inductive JisMode where
  | ascii
  | roman
  | katakana
  /-- Two bytes for each character. -/
  | pairs
  deriving DecidableEq, Repr

namespace JisMode

/-- The set that an escape sequence switches to, by the two bytes after the escape character. -/
def ofEscape? : List UInt8 → Option JisMode
  | 0x28 :: 0x42 :: _ => some .ascii
  | 0x28 :: 0x4A :: _ => some .roman
  | 0x28 :: 0x49 :: _ => some .katakana
  | 0x24 :: 0x40 :: _ | 0x24 :: 0x42 :: _ => some .pairs
  | _ => none

/-- The character of a byte in a set of one byte a character. -/
def char (mode : JisMode) (b : UInt8) : Char :=
  match mode with
  | .katakana => ((placeIn? 0x21 0x5F b).map Charset.katakana).getD unknown
  | mode =>
    if 0x80 ≤ b || b == 0x0E || b == 0x0F then unknown
    else if mode == .roman && b == 0x5C then '\u00A5'
    else if mode == .roman && b == 0x7E then '\u203E'
    else Char.ofNat b.toNat

/-- The character of two bytes, of which the first is in a row. -/
def pairChar (row : Nat) (b : UInt8) : Char :=
  ((placeIn? 0x21 0x7E b).bind fun column => jis0208.char? (row * 94 + column)).getD unknown

/-- The characters of bytes in a set; `switched` says that an escape sequence came right before, after
which another one is out of place. -/
def read (mode : JisMode) (switched : Bool) : List UInt8 → List Char
  | [] => []
  | 0x1B :: rest =>
    match ofEscape? rest with
    | some next => (if switched then [unknown] else []) ++ read next true (rest.drop 2)
    | none => unknown :: read mode false rest
  | b :: rest =>
    match mode, placeIn? 0x21 0x7E b with
    | .pairs, some row =>
      if rest.head? == some 0x1B then unknown :: read mode false rest
      else rest.head?.elim unknown (pairChar row) :: read mode false (rest.drop 1)
    | .pairs, none => unknown :: read mode false rest
    | _, _ => mode.char b :: read mode false rest
termination_by bs => bs.length
decreasing_by all_goals (simp only [List.length_cons, List.length_drop]; omega)

end JisMode

/-- The characters of bytes in ISO-2022-JP. -/
def readIso2022Jp (bs : List UInt8) : List Char := JisMode.read .ascii false bs

end ApprovalDesk.Text.Charset
