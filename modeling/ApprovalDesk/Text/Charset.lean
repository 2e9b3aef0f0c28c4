import ApprovalDesk.Text.Charset.Big5
import ApprovalDesk.Text.Charset.Gb18030
import ApprovalDesk.Text.Charset.Hangul
import ApprovalDesk.Text.Charset.Jis
import ApprovalDesk.Text.Charset.SingleByte
import ApprovalDesk.Text.Utf8

/-!
# Character sets

How bytes that came from elsewhere are read as text: the character sets of the Encoding Standard with
their labels. A byte order mark decides by itself and is no part of the text. What cannot be read
becomes U+FFFD.
-/

namespace ApprovalDesk.Text

set_option autoImplicit false

/-- A way to read bytes as text. -/
inductive Charset where
  | utf8
  | utf16 (bigEndian : Bool)
  /-- A byte for each character; the table holds the characters from 0x80 on. -/
  | singleByte (upper : Ranges)
  | gb18030
  | big5
  | eucJp
  | iso2022Jp
  | shiftJis
  | eucKr
  /-- Nothing in it can be read. -/
  | unreadable
  deriving DecidableEq, Repr

namespace Charset

def utf8Labels : List String :=
  ["unicode-1-1-utf-8", "unicode11utf8", "unicode20utf8", "utf-8", "utf8", "x-unicode20utf8"]

def littleEndianLabels : List String :=
  ["csunicode", "iso-10646-ucs-2", "ucs-2", "unicode", "unicodefeff", "utf-16", "utf-16le"]

def bigEndianLabels : List String := ["unicodefffe", "utf-16be"]

def unreadableLabels : List String :=
  ["csiso2022kr", "hz-gb-2312", "iso-2022-cn", "iso-2022-cn-ext", "iso-2022-kr", "replacement"]

/-- The East Asian character sets with their labels. -/
def eastAsianSets : List (List String × Charset) := [
  (["chinese", "csgb2312", "csiso58gb231280", "gb2312", "gb_2312", "gb_2312-80", "gbk", "iso-ir-58",
    "x-gbk", "gb18030"], .gb18030),
  (["big5", "big5-hkscs", "cn-big5", "csbig5", "x-x-big5"], .big5),
  (["cseucpkdfmtjapanese", "euc-jp", "x-euc-jp"], .eucJp),
  (["csiso2022jp", "iso-2022-jp"], .iso2022Jp),
  (["csshiftjis", "ms932", "ms_kanji", "shift-jis", "shift_jis", "sjis", "windows-31j", "x-sjis"],
    .shiftJis),
  (["cseuckr", "csksc56011987", "euc-kr", "iso-ir-149", "korean", "ks_c_5601-1987",
    "ks_c_5601-1989", "ksc5601", "ksc_5601", "windows-949"], .eucKr)]

/-- The character sets with their labels. -/
def labelled : List (List String × Charset) :=
  [(utf8Labels, .utf8), (littleEndianLabels, .utf16 false), (bigEndianLabels, .utf16 true),
    (unreadableLabels, .unreadable)] ++ eastAsianSets ++
    singleByteSets.map fun s => (s.1, .singleByte s.2)

/-- A blank around a label. -/
def isLabelBlank (c : Char) : Bool :=
  c == ' ' || c == '\t' || c == '\n' || c == '\x0C' || c == '\r'

/-- The character set of a label in any case. -/
def ofLabel? (label : List Char) : Option Charset :=
  let label := ((label.dropWhile isLabelBlank).reverse.dropWhile isLabelBlank).reverse
  let name := String.ofList (label.map Char.toLower)
  (labelled.find? (·.1.contains name)).map (·.2)

/-- The character of a byte in a set of one byte a character. -/
def byteChar (upper : List Nat) (b : UInt8) : Char :=
  if b < 0x80 then Char.ofNat b.toNat else Char.ofNat (upper.getD (b.toNat - 0x80) 0xFFFD)

/-- The 16-bit units of bytes, where a last byte without a partner has none. -/
def units16 (bigEndian : Bool) : List UInt8 → List (Option Nat)
  | [] => []
  | [_] => [none]
  | a :: b :: rest =>
    some (if bigEndian then a.toNat * 256 + b.toNat else b.toNat * 256 + a.toNat) ::
      units16 bigEndian rest

/-- The characters of 16-bit units; half a surrogate pair cannot be read, and at the end of the text
neither it nor a byte after it. -/
def chars16 : List (Option Nat) → List Char
  | [] => []
  | none :: rest => '\uFFFD' :: chars16 rest
  | some n :: rest =>
    if 0xD800 ≤ n ∧ n ≤ 0xDBFF then
      match rest with
      | some m :: tail =>
        if 0xDC00 ≤ m ∧ m ≤ 0xDFFF then
          Char.ofNat (0x10000 + (n - 0xD800) * 0x400 + (m - 0xDC00)) :: chars16 tail
        else '\uFFFD' :: chars16 (some m :: tail)
      | none :: tail => '\uFFFD' :: chars16 tail
      | [] => ['\uFFFD']
    else if 0xDC00 ≤ n ∧ n ≤ 0xDFFF then '\uFFFD' :: chars16 rest
    else Char.ofNat n :: chars16 rest

/-- The characters of bytes without a byte order mark. -/
def decodeChars : Charset → List UInt8 → List Char
  | .utf8, bs => Utf8.decodeCharsLossy bs
  | .utf16 bigEndian, bs => chars16 (units16 bigEndian bs)
  | .singleByte upper, bs => bs.map (byteChar upper.codePoints)
  | .gb18030, bs => readAll gb18030Rule bs
  | .big5, bs => readAll big5Rule bs
  | .eucJp, bs => readAll eucJpRule bs
  | .iso2022Jp, bs => readIso2022Jp bs
  | .shiftJis, bs => readAll shiftJisRule bs
  | .eucKr, bs => readAll eucKrRule bs
  | .unreadable, bs => if bs.isEmpty then [] else ['\uFFFD']

/-- The text of bytes; a byte order mark overrules the character set. -/
def decode (charset : Charset) (bs : List UInt8) : String :=
  String.ofList <| match bs with
    | 0xEF :: 0xBB :: 0xBF :: rest => decodeChars .utf8 rest
    | 0xFF :: 0xFE :: rest => decodeChars (.utf16 false) rest
    | 0xFE :: 0xFF :: rest => decodeChars (.utf16 true) rest
    | _ => decodeChars charset bs

end Charset

end ApprovalDesk.Text
