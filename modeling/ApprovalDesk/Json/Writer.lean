import ApprovalDesk.Json.Basic
import ApprovalDesk.Text.Binary64
import ApprovalDesk.Text.Hex

/-!
# The text of a JSON value

Values are written without blanks. In a string only the quote, the backslash and the control
characters below U+0020 are escaped. A floating-point number is written positionally from 10^-5 up to
10^16 and with an exponent elsewhere, which has a sign in either case.
-/

namespace ApprovalDesk.Json

set_option autoImplicit false

open ApprovalDesk.Text

/-- A character inside a string. -/
def escapeChar (c : Char) : List Char :=
  match c with
  | '"' => ['\\', '"']
  | '\\' => ['\\', '\\']
  | '\x08' => ['\\', 'b']
  | '\x0C' => ['\\', 'f']
  | '\n' => ['\\', 'n']
  | '\r' => ['\\', 'r']
  | '\t' => ['\\', 't']
  | c => if c.toNat < 0x20 then '\\' :: 'u' :: Hex.padded 4 c.toNat else [c]

/-- A string between quotes. -/
def writeString (s : String) : List Char := '"' :: s.toList.flatMap escapeChar ++ ['"']

/-- A positive number with digits `ds`, the last of them at the power `power` of ten. -/
def writeDigits (ds : List Char) (power : Int) : List Char :=
  let point := (ds.length : Int) + power
  if 0 ≤ power ∧ point ≤ 16 then ds ++ List.replicate power.toNat '0' ++ ['.', '0']
  else if 0 < point ∧ point ≤ 16 then ds.take point.toNat ++ '.' :: ds.drop point.toNat
  else if -5 < point ∧ point ≤ 0 then '0' :: '.' :: List.replicate (-point).toNat '0' ++ ds
  else
    let exponent := 'e' :: Decimal.signed (point - 1)
    match ds with
    | [d] => d :: exponent
    | d :: rest => d :: '.' :: rest ++ exponent
    | [] => exponent

/-- A floating-point number by its stored bits; one that is not finite is `null`. -/
def writeReal (bits : UInt64) : List Char :=
  let n := bits.toNat
  if n / Binary64.hiddenBit % 2048 = 2047 then ['n', 'u', 'l', 'l']
  else
    let sign := if n / 0x8000000000000000 = 1 then ['-'] else []
    let x := Binary64.ofBits n
    if x.mantissa = 0 then sign ++ ['0', '.', '0']
    else
      let (digits, power) := x.shortest
      sign ++ writeDigits (Decimal.ofNat digits) power

def writeNumber : Number → List Char
  | .int n => Decimal.ofInt n
  | .real bits => writeReal bits

mutual

/-- The characters of a value. -/
def writeChars : Json → List Char
  | .null => ['n', 'u', 'l', 'l']
  | .bool true => ['t', 'r', 'u', 'e']
  | .bool false => ['f', 'a', 'l', 's', 'e']
  | .num n => writeNumber n
  | .str s => writeString s
  | .arr items => '[' :: writeItems items
  | .obj members => '{' :: writeMembers members

/-- The items of an array with the closing bracket. -/
def writeItems : List Json → List Char
  | [] => [']']
  | [v] => writeChars v ++ [']']
  | v :: w :: rest => writeChars v ++ ',' :: writeItems (w :: rest)

/-- The members of an object with the closing brace. -/
def writeMembers : List (String × Json) → List Char
  | [] => ['}']
  | [(n, v)] => writeString n ++ ':' :: writeChars v ++ ['}']
  | (n, v) :: m :: rest => writeString n ++ ':' :: writeChars v ++ ',' :: writeMembers (m :: rest)

end

/-- The text of a value. -/
def write (v : Json) : String := String.ofList (writeChars v)

end ApprovalDesk.Json
