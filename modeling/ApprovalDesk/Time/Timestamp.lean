import ApprovalDesk.Text.Blank
import ApprovalDesk.Text.Decimal
import ApprovalDesk.Time.Instant

/-!
# Timestamps

The written form of an instant, `YYYY-MM-DDThh:mm:ss[.fraction]Z` (RFC 3339). A fraction has 3, 6 or 9
digits, the fewest that are exact, and is left out when it is zero; a year outside 0..9999 has a sign.
The reader accepts more: any offset, a blank or a `t` between date and time, blanks before a number,
one-digit months and days, and fractions of any length, cut after nine digits.
-/

namespace ApprovalDesk.Time.Timestamp

set_option autoImplicit false

open ApprovalDesk.Text

/-! ## Writing -/

/-- A year with at least four digits, signed outside 0..9999. -/
def yearChars (year : Int) : List Char :=
  if 0 ≤ year ∧ year ≤ 9999 then Decimal.padded 4 year.toNat
  else (if year < 0 then '-' else '+') :: Decimal.padded 4 year.natAbs

/-- A fraction of a second from its nanoseconds. -/
def fractionChars (nano : Nat) : List Char :=
  if nano = 0 then []
  else if nano % 1000000 = 0 then '.' :: Decimal.padded 3 (nano / 1000000)
  else if nano % 1000 = 0 then '.' :: Decimal.padded 6 (nano / 1000)
  else '.' :: Decimal.padded 9 nano

/-- The calendar day as `YYYY-MM-DD`. -/
def dateChars (d : Date) : List Char :=
  yearChars d.year ++ '-' :: Decimal.padded 2 d.month ++ '-' :: Decimal.padded 2 d.day

/-- The time of day as `hh:mm:ss[.fraction]`; a leap second is second 60. -/
def timeChars (t : Instant) : List Char :=
  let s := t.secondOfDay
  let leap := t.nano ≥ 1000000000
  let second := s % 60 + if leap then 1 else 0
  let nano := if leap then t.nano - 1000000000 else t.nano
  Decimal.padded 2 (s / 3600) ++ ':' :: Decimal.padded 2 (s / 60 % 60) ++
    ':' :: Decimal.padded 2 second ++ fractionChars nano

/-- Date and time without an offset. -/
def localChars (t : Instant) : List Char := dateChars t.date ++ 'T' :: timeChars t

/-- The written form, ending in `Z`. -/
def write (t : Instant) : String := String.ofList (localChars t ++ ['Z'])

/-- The written form with the numeric offset `+00:00`. -/
def writeWithOffset (t : Instant) : String := String.ofList (localChars t) ++ "+00:00"

/-- The written form for readers of mail, `DD/MM/YYYY hh:mm UTC`. -/
def writeForMail (t : Instant) : String :=
  let d := t.date
  let s := t.secondOfDay
  String.ofList (Decimal.padded 2 d.day ++ '/' :: Decimal.padded 2 d.month ++ '/' :: yearChars d.year ++
    ' ' :: Decimal.padded 2 (s / 3600) ++ ':' :: Decimal.padded 2 (s / 60 % 60)) ++ " UTC"

/-! ## Reading -/

/-- Why a text is no timestamp. -/
inductive ReadError where
  /-- The text ends too early. -/
  | tooShort
  /-- A character stands where it may not. -/
  | unexpected
  /-- A number is not in its range, or the day does not exist. -/
  | outOfRange
  /-- Something follows the offset. -/
  | trailing
  /-- The offset moves the instant out of the calendar. -/
  | impossible
  deriving DecidableEq, Repr

/-- The wording of an error. -/
def ReadError.message : ReadError → String
  | .tooShort => "premature end of input"
  | .unexpected => "input contains invalid characters"
  | .outOfRange => "input is out of range"
  | .trailing => "trailing input"
  | .impossible => "no possible date and time matching input"

/-- Up to `width` digits, at least one; with the rest of the text. -/
def digits (width : Nat) (cs : List Char) : Except ReadError (Nat × List Char) :=
  match cs with
  | [] => .error .tooShort
  | c :: _ =>
    if Decimal.isDigit c then
      let ds := (cs.take width).takeWhile Decimal.isDigit
      .ok (Decimal.toNat ds, cs.drop ds.length)
    else .error .unexpected

/-- A number of up to `width` digits after blanks, refused outside `lo..hi`. -/
def field (width lo hi : Nat) (cs : List Char) : Except ReadError (Nat × List Char) := do
  let (n, rest) ← digits width (trimStartChars cs)
  if lo ≤ n ∧ n ≤ hi then .ok (n, rest) else .error .outOfRange

/-- A year: four digits at most, any number of them after a sign. -/
def yearField (cs : List Char) : Except ReadError (Int × List Char) := do
  let cs := trimStartChars cs
  let (year, rest) ← match cs with
    | '-' :: more => do
      let (n, rest) ← digits more.length more
      pure (-(n : Int), rest)
    | '+' :: more => do
      let (n, rest) ← digits more.length more
      pure ((n : Int), rest)
    | _ => do
      let (n, rest) ← digits 4 cs
      pure ((n : Int), rest)
  if -2147483648 ≤ year ∧ year ≤ 2147483647 then .ok (year, rest) else .error .outOfRange

/-- The character `c` after blanks. -/
def mark (c : Char) (cs : List Char) : Except ReadError (List Char) :=
  match trimStartChars cs with
  | [] => .error .tooShort
  | d :: rest => if d = c then .ok rest else .error .unexpected

/-- An optional fraction, in nanoseconds. -/
def fraction (cs : List Char) : Except ReadError (Nat × List Char) :=
  match cs with
  | '.' :: more => do
    let (_, _) ← digits 9 more
    let ds := more.takeWhile Decimal.isDigit
    let kept := ds.take 9
    .ok (Decimal.toNat kept * Nat.pow 10 (9 - kept.length), more.drop ds.length)
  | _ => .ok (0, cs)

/-- Two digits, the first at most `hi` unless the number is to be called out of range. -/
def twoDigits (hi : Nat) (cs : List Char) : Except ReadError (Nat × List Char) :=
  match cs with
  | [] => .error .tooShort
  | [c] => if c.utf8Size < 2 then .error .tooShort else .error .unexpected
  | a :: b :: rest =>
    if Decimal.isDigit a && Decimal.isDigit b then
      if Decimal.value a ≤ hi then .ok (10 * Decimal.value a + Decimal.value b, rest)
      else .error .outOfRange
    else .error .unexpected

/-- An offset from UTC in seconds: `Z`, `UTC` or a sign, hours and minutes. -/
def offset (cs : List Char) : Except ReadError (Int × List Char) :=
  match cs with
  | [] => .error .tooShort
  | c :: rest =>
    if (cs.take 3).map Char.toLower = ['u', 't', 'c'] then .ok (0, cs.drop 3)
    else if c = 'Z' ∨ c = 'z' then .ok (0, rest)
    else if c = '+' ∨ c = '-' ∨ c = '\u2212' then do
      let (hours, rest) ← twoDigits 9 rest
      let (minutes, rest) ← twoDigits 5 (rest.dropWhile fun c => c == ':' || isBlank c)
      let seconds : Int := hours * 3600 + minutes * 60
      .ok (if c = '+' then seconds else -seconds, rest)
    else .error .unexpected

/-- The parts of a timestamp as they are written. -/
structure Parts where
  date : Date
  hour : Nat
  minute : Nat
  second : Nat
  nano : Nat
  offset : Int
  deriving DecidableEq, Repr

/-- Reads the parts of a timestamp; only blanks may follow them. -/
def parts (cs : List Char) : Except ReadError Parts := do
  let (year, cs) ← yearField cs
  let cs ← mark '-' cs
  let (month, cs) ← field 2 1 12 cs
  let cs ← mark '-' cs
  let (day, cs) ← field 2 1 31 cs
  let cs ← match cs with
    | [] => .error .tooShort
    | c :: rest => if c = 't' ∨ c = 'T' ∨ c = ' ' then .ok rest else .error .unexpected
  let (hour, cs) ← field 2 0 23 cs
  let cs ← mark ':' cs
  let (minute, cs) ← field 2 0 59 cs
  let cs ← mark ':' cs
  let (second, cs) ← field 2 0 60 cs
  let (nano, cs) ← fraction cs
  let (off, cs) ← offset (trimStartChars cs)
  if (trimStartChars cs).isEmpty then
    .ok { date := ⟨year, month, day⟩, hour, minute, second, nano, offset := off }
  else .error .trailing

/-- The instant that the parts name. -/
def Parts.instant (p : Parts) : Except ReadError Instant :=
  if p.date.year < firstYear ∨ lastYear < p.date.year ∨ !p.date.isValid then .error .outOfRange
  else if 86400 ≤ p.offset.natAbs then .error .outOfRange
  else
    let leap := p.second = 60
    let second := p.date.toDays * 86400 + (p.hour * 3600 + p.minute * 60 +
      (if leap then 59 else p.second) : Nat) - p.offset
    if Instant.inCalendar second then
      .ok ⟨second, p.nano + if leap then 1000000000 else 0⟩
    else .error .impossible

/-- Reads a timestamp. -/
def read (s : String) : Except ReadError Instant := do
  let p ← parts s.toList
  p.instant

end ApprovalDesk.Time.Timestamp
