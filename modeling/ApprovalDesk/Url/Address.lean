import ApprovalDesk.Text.Decimal
import ApprovalDesk.Text.Hex
import ApprovalDesk.Url.Error

/-!
# Numeric host addresses

An IPv4 address is read from up to four numbers, of which the last fills all bytes that the others
leave; a number may be octal or hexadecimal. An IPv6 address is eight groups of 16 bits, of which one
run of zeros may be left out and the last two may be an IPv4 address. IPv6 addresses are written with
the first of the longest runs of two or more zero groups left out.
-/

namespace ApprovalDesk.Url

set_option autoImplicit false

open ApprovalDesk.Text

/-- The runs of characters between the characters `sep`. -/
def splitAt (sep : Char → Bool) : List Char → List (List Char)
  | [] => [[]]
  | c :: cs =>
    if sep c then [] :: splitAt sep cs
    else match splitAt sep cs with
      | [] => [[c]]
      | run :: runs => (c :: run) :: runs

/-! ## IPv4 -/

/-- An octal digit. -/
def isOctal (c : Char) : Bool := '0' ≤ c && c ≤ '7'

/-- A number of an IPv4 address: hexadecimal after `0x`, octal after another `0`, else decimal. -/
def v4Number? (cs : List Char) : Option Nat :=
  match cs with
  | [] => none
  | '0' :: 'x' :: ds | '0' :: 'X' :: ds => if ds.all Hex.isDigit then Hex.number? ds else none
  | '0' :: d :: ds =>
    if (d :: ds).all isOctal then some ((d :: ds).foldl (fun n c => 8 * n + Decimal.value c) 0)
    else none
  | ds => Decimal.number? ds

/-- A name whose last label is a number, so that it has to be an IPv4 address. -/
def endsInNumber (name : List Char) : Bool :=
  match (splitAt (· == '.') name).reverse with
  | [] => false
  | last :: before =>
    let last? := if last.isEmpty then before.head? else some last
    match last? with
    | none => false
    | some label => (!label.isEmpty && label.all Decimal.isDigit) || (v4Number? label).isSome

/-- The address that numbers make: each of the first ones is a byte, the last one fills the rest. -/
def v4OfNumbers? : List Nat → Nat → Option Nat
  | [], _ => none
  | [n], bytes => if n < Nat.pow 256 bytes then some n else none
  | n :: ns, bytes + 1 =>
    if n < 256 then (v4OfNumbers? ns bytes).map (n * Nat.pow 256 bytes + ·) else none
  | _ :: _, 0 => none

/-- Reads an IPv4 address, which may end in a point. -/
def readV4 (name : List Char) : Except Error Nat :=
  let labels := splitAt (· == '.') name
  let labels := if labels.getLast? == some [] then labels.dropLast else labels
  if 4 < labels.length then .error .v4Address
  else match labels.mapM v4Number? with
    | none => .error .v4Address
    | some ns => match v4OfNumbers? ns 4 with
      | none => .error .v4Address
      | some address => .ok address

/-- The four bytes of an IPv4 address in decimal, with points between them. -/
def writeV4 (address : Nat) : List Char :=
  Decimal.ofNat (address / 16777216 % 256) ++ '.' :: Decimal.ofNat (address / 65536 % 256) ++
    '.' :: Decimal.ofNat (address / 256 % 256) ++ '.' :: Decimal.ofNat (address % 256)

/-! ## IPv6 -/

/-- A byte in decimal without leading zeros. -/
def v6Byte? (ds : List Char) : Option Nat :=
  if 1 < ds.length && ds.head? == some '0' then none
  else (Decimal.number? ds).bind fun n => if n < 256 then some n else none

/-- The two groups of four bytes with points between them. -/
def v6Tail? (cs : List Char) : Option (List Nat) :=
  match (splitAt (· == '.') cs).map v6Byte? with
  | [some a, some b, some c, some d] => some [a * 256 + b, c * 256 + d]
  | _ => none

/-- A group of one to four digits. -/
def v6Group? (cs : List Char) : Option Nat :=
  if cs.isEmpty || 4 < cs.length then none else Hex.number? cs

/-- Groups with a colon between them, the last of which may be an IPv4 address. -/
def v6Groups? : List (List Char) → Option (List Nat)
  | [] => some []
  | [last] => if last.any (· == '.') then v6Tail? last else (v6Group? last).map ([·])
  | cs :: rest => match v6Group? cs, v6Groups? rest with
    | some n, some ns => some (n :: ns)
    | _, _ => none

/-- The text before and after the first `::`. -/
def splitGap? : List Char → Option (List Char × List Char)
  | ':' :: ':' :: rest => some ([], rest)
  | c :: rest => (splitGap? rest).map fun p => (c :: p.1, p.2)
  | [] => none

/-- Groups as they stand on one side of a gap, where there may be none. -/
def v6Side? (cs : List Char) : Option (List Nat) :=
  if cs.isEmpty then some [] else v6Groups? (splitAt (· == ':') cs)

/-- Reads the eight groups of an IPv6 address; a gap stands for at least one of them. -/
def readV6 (cs : List Char) : Except Error (List Nat) :=
  let groups := match splitGap? cs with
    | none => (v6Groups? (splitAt (· == ':') cs)).bind fun gs =>
      if gs.length = 8 then some gs else none
    | some (before, after) =>
      if before.any (· == '.') then none
      else match v6Side? before, v6Side? after with
        | some gs, some hs =>
          if gs.length + hs.length < 8 then
            some (gs ++ List.replicate (8 - gs.length - hs.length) 0 ++ hs)
          else none
        | _, _ => none
  match groups with
  | some gs => .ok gs
  | none => .error .v6Address

/-- The length of the run of zeros at the front. -/
def zeroRun (gs : List Nat) : Nat := (gs.takeWhile (· == 0)).length

/-- The longest run of zeros that begins at position `i` or later: its begin and its length. -/
def longestZeros (i : Nat) : List Nat → Nat × Nat
  | [] => (i, 0)
  | g :: gs =>
    let here := zeroRun (g :: gs)
    let later := longestZeros (i + 1) gs
    if here < later.2 then later else (i, here)

/-- Groups in hexadecimal with colons between them. -/
def writeGroups : List Nat → List Char
  | [] => []
  | [g] => Hex.ofNat g
  | g :: gs => Hex.ofNat g ++ ':' :: writeGroups gs

/-- The written form of an IPv6 address. -/
def writeV6 (gs : List Nat) : List Char :=
  let (begin_, length) := longestZeros 0 gs
  if length < 2 then writeGroups gs
  else writeGroups (gs.take begin_) ++ ':' :: ':' :: writeGroups (gs.drop (begin_ + length))

end ApprovalDesk.Url
