import ApprovalDesk.Text.Hex

/-!
# UUIDs

Sixteen bytes, written as 32 hexadecimal digits in groups of 8, 4, 4, 4 and 12. The reader accepts
digits in either case, with or without the hyphens, the hyphenated form also in braces or after
`urn:uuid:`, which may be written in either case too.
-/

namespace ApprovalDesk

set_option autoImplicit false

open ApprovalDesk.Text

/-- An identifier of 16 bytes. -/
structure Uuid where
  bytes : List UInt8
  size : bytes.length = 16 := by rfl
  deriving DecidableEq, Repr

namespace Uuid

/-- Why a text is no UUID. -/
inductive ReadError where
  /-- A character that is neither digit nor hyphen, at a position counted from 0 in bytes. -/
  | character (c : Char) (position : Nat)
  /-- More bytes than the longest form has, or digits alone that no form has so many of. -/
  | length (found : Nat)
  /-- Not five groups. -/
  | groupCount (found : Nat)
  /-- A group, counted from 0, with the wrong number of digits. -/
  | groupLength (group expected found : Nat)
  deriving DecidableEq, Repr

/-- The wording of an error. -/
def ReadError.message : ReadError → String
  | .character c position =>
    "invalid character: found `" ++ c.toString ++ "` at " ++ Nat.repr position
  | .length found => "invalid length: found " ++ Nat.repr found
  | .groupCount found => "invalid group count: expected 5, found " ++ Nat.repr found
  | .groupLength group expected found =>
    "invalid group length in group " ++ Nat.repr group ++ ": expected " ++ Nat.repr expected ++
      ", found " ++ Nat.repr found

/-- The digits of the bytes with hyphens between the groups. -/
def chars (u : Uuid) : List Char :=
  let ds := Hex.encode u.bytes
  ds.take 8 ++ '-' :: (ds.drop 8).take 4 ++ '-' :: (ds.drop 12).take 4 ++
    '-' :: (ds.drop 16).take 4 ++ '-' :: ds.drop 20

/-- The written form. -/
def write (u : Uuid) : String := String.ofList u.chars

/-- Thirty-two digits. -/
def ofDigits? (ds : List Char) : Option Uuid :=
  (Hex.decode? ds).bind fun bytes =>
    if h : bytes.length = 16 then some ⟨bytes, h⟩ else none

/-- Thirty-two digits with hyphens between the groups. -/
def ofGroups? (cs : List Char) : Option Uuid :=
  if (cs.drop 8).head? == some '-' && (cs.drop 13).head? == some '-' &&
    (cs.drop 18).head? == some '-' && (cs.drop 23).head? == some '-'
  then
    ofDigits? (cs.take 8 ++ (cs.drop 9).take 4 ++ (cs.drop 14).take 4 ++ (cs.drop 19).take 4 ++
      cs.drop 24)
  else none

def byteLength (cs : List Char) : Nat := cs.foldl (fun n c => n + c.utf8Size) 0

/-- What stands before the hyphenated form when it is given as a name. -/
def urn : List Char := "urn:uuid:".toList

/-- The number of bytes of the hyphenated form. -/
def hyphenatedLength : Nat := 36

/-- The text inside braces or after `urn:uuid:`, and the number of bytes before it. -/
def unwrap (cs : List Char) : Option (List Char × Nat) :=
  if cs.head? == some '{' && cs.getLast? == some '}' && 2 ≤ cs.length then
    some ((cs.drop 1).dropLast, 1)
  else if (cs.take urn.length).map Char.toLower == urn then
    some (cs.drop urn.length, urn.length)
  else none

/-- The first character that is neither digit nor hyphen, with its position from `start` on. -/
def strayCharacter (start : Nat) : List Char → Option (Char × Nat)
  | [] => none
  | c :: rest =>
    if c = '-' ∨ Hex.isDigit c then strayCharacter (start + 1) rest else some (c, start)

/-- The positions of the hyphens. -/
def hyphens (cs : List Char) : List Nat :=
  (cs.zipIdx.filter fun p => p.1 == '-').map (·.2)

/-- Why `cs`, of which `inner` begins after `start` bytes, is no UUID. A text that is bare and has no
hyphen is taken for digits alone, unless it is as long as the hyphenated form. -/
def explainInner (cs inner : List Char) (start : Nat) (bare : Bool) : ReadError :=
  match strayCharacter start inner with
  | some (c, position) => .character c position
  | none =>
    let hs := hyphens inner
    if hs.isEmpty && bare && byteLength cs != hyphenatedLength then .length (byteLength cs)
    else if hs.length ≠ 4 then .groupCount (hs.length + 1)
    else
      let begins := [0, 9, 14, 19]
      let wrong := ([8, 13, 18, 23].zip hs).findIdx? fun p => p.1 != p.2
      match wrong with
      | some group =>
        .groupLength group ([8, 4, 4, 4].getD group 0) (hs.getD group 0 - begins.getD group 0)
      | none => .groupLength 4 12 (byteLength cs - 24)

/-- Why `cs` is no UUID. What is longer than the longest form is not looked into. -/
def explain (cs : List Char) : ReadError :=
  if urn.length + hyphenatedLength < byteLength cs then .length (byteLength cs)
  else match unwrap cs with
    | some (inner, start) => explainInner cs inner start false
    | none => explainInner cs cs 0 true

/-- Reads a UUID. A text in braces or after `urn:uuid:` that has the right length is judged by what
it holds alone. -/
def read (s : String) : Except ReadError Uuid :=
  let cs := s.toList
  let n := byteLength cs
  let (body, result) :=
    if n = 32 then (cs, ofDigits? cs)
    else if n = hyphenatedLength then (cs, ofGroups? cs)
    else match unwrap cs with
      | some (inner, _) =>
        if byteLength inner = hyphenatedLength then (inner, ofGroups? inner) else (cs, none)
      | none => (cs, none)
  match result with
  | some u => .ok u
  | none => .error (explain body)

end Uuid

end ApprovalDesk
