import ApprovalDesk.Time.Calendar

/-!
# Instants

A moment in UTC with a resolution of one nanosecond. Leap seconds are not counted: during one, the
second before it goes on and its nanoseconds run from 10^9 up to 2·10^9. Instants are ordered by
second, then nanosecond. Sums that leave the years of the calendar have no value.
-/

namespace ApprovalDesk.Time

set_option autoImplicit false

/-- A moment: seconds since 1970-01-01T00:00:00Z and nanoseconds within the second. -/
structure Instant where
  second : Int
  nano : Nat
  deriving DecidableEq, Repr, Inhabited

namespace Instant

/-- The first second of the calendar. -/
def firstSecond : Int := (Date.toDays ⟨firstYear, 1, 1⟩) * 86400

/-- The last second of the calendar. -/
def lastSecond : Int := (Date.toDays ⟨lastYear, 12, 31⟩) * 86400 + 86399

/-- A second within the years of the calendar. -/
def inCalendar (second : Int) : Bool := firstSecond ≤ second && second ≤ lastSecond

/-- An instant as clocks and readers produce it: within the calendar, and inside a leap second only
at second 59 of a minute. -/
def Valid (t : Instant) : Prop :=
  inCalendar t.second = true ∧ (t.nano < 1000000000 ∨ (t.nano < 2000000000 ∧ t.second % 60 = 59))

/-- `t` is later than `u`. -/
def isAfter (t u : Instant) : Bool :=
  u.second < t.second || (u.second == t.second && u.nano < t.nano)

/-- The whole seconds of a span of milliseconds, toward zero. -/
def wholeSeconds (millis : Int) : Int := millis.tdiv 1000

/-- The nanoseconds that a span of milliseconds has beyond its whole seconds, with its sign. -/
def restNanos (millis : Int) : Int := millis.tmod 1000 * 1000000

/-- Seconds and nanoseconds below one second in either direction, carried into the range of an
instant. -/
def carry (second nano : Int) : Option Instant :=
  let (second, nano) :=
    if nano < 0 then (second - 1, nano + 1000000000)
    else if nano ≥ 1000000000 then (second + 1, nano - 1000000000)
    else (second, nano)
  if inCalendar second then some ⟨second, nano.toNat⟩ else none

/-- The instant a number of milliseconds later. A sum that stays within the leap second keeps it;
one that leaves it counts from the end of its minute backwards and from its beginning forwards. -/
def addMillis (t : Instant) (millis : Int) : Option Instant :=
  let secs := wholeSeconds millis
  let nanos := restNanos millis
  if t.nano ≥ 1000000000 then
    if secs > 0 || (nanos > 0 && (t.nano : Int) + nanos ≥ 2000000000) then
      carry (t.second + secs) ((t.nano : Int) - 1000000000 + nanos)
    else if secs < 0 then
      carry (t.second + 1 + secs) ((t.nano : Int) - 1000000000 + nanos)
    else if inCalendar t.second then some ⟨t.second, ((t.nano : Int) + nanos).toNat⟩ else none
  else carry (t.second + secs) ((t.nano : Int) + nanos)

/-- The nanoseconds since 1970, if they fit 64 bits with a sign. -/
def nanos64? (t : Instant) : Option Int :=
  let n := t.second * 1000000000 + t.nano
  if -9223372036854775808 ≤ n ∧ n ≤ 9223372036854775807 then some n else none

/-- The day of an instant. -/
def date (t : Instant) : Date := Date.ofDays (t.second / 86400)

/-- The second of the day, from 0 to 86399. -/
def secondOfDay (t : Instant) : Nat := (t.second % 86400).toNat

/-- The year of an instant. -/
def year (t : Instant) : Int := t.date.year

end Instant

end ApprovalDesk.Time
