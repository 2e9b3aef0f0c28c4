import ApprovalDesk.Proofs.Time.Sums
import ApprovalDesk.Proofs.Token.Check

/-!
# The window of a token

The time in which a token is valid is an interval that includes its end, and a longer validity never ends
it earlier. This holds for every instant at which a token can be created, leap seconds included. What a
check says of the string and of the use of a token has nothing to do with time.
-/

namespace ApprovalDesk

set_option autoImplicit false

open ApprovalDesk.Time

namespace Token

variable {t : Token} {supplied : String} {ttl short long : Int} {now earlier later : Instant}

/-! ## What each verdict says -/

/-- The ends of a check, with the condition for each. -/
inductive Checked (t : Token) (supplied : String) (ttl : Int) (now : Instant) :
    Except Crash Verdict → Prop where
  | mismatch (other : t.secret ≠ supplied) : Checked t supplied ttl now (.ok .mismatch)
  | spent (own : t.secret = supplied) (used : t.used = true) : Checked t supplied ttl now (.ok .spent)
  | endless (own : t.secret = supplied) (unused : t.used = false) (undated : ¬ t.InCalendar ttl) :
      Checked t supplied ttl now (.error .expiryOutOfCalendar)
  | expired (own : t.secret = supplied) (unused : t.used = false) (late : t.isLate ttl now = true) :
      Checked t supplied ttl now (.ok .expired)
  | valid (own : t.secret = supplied) (unused : t.used = false) (dated : t.InCalendar ttl)
      (inTime : t.isLate ttl now = false) : Checked t supplied ttl now (.ok .valid)

theorem checked (t : Token) (supplied : String) (ttl : Int) (now : Instant) :
    t.Checked supplied ttl now (t.check supplied ttl now) := by
  by_cases own : t.secret = supplied
  · cases used : t.used with
    | true =>
      rw [check_of_used ttl now own used]
      exact .spent own used
    | false =>
      by_cases dated : t.InCalendar ttl
      · rw [check_of_match now own dated, used]
        cases late : t.isLate ttl now with
        | true => exact .expired own used late
        | false => exact .valid own used dated late
      · have ends : t.createdAt.addMillis ttl = none := Option.not_isSome_iff_eq_none.1 dated
        have crashed : t.check supplied ttl now = .error .expiryOutOfCalendar := by
          unfold check isMatch isExpired expiresAt
          simp [own, used, ends, Except.map]
        rw [crashed]
        exact .endless own used dated
  · rw [check_of_mismatch ttl now own]
    exact .mismatch own

theorem check_eq_mismatch_iff : t.check supplied ttl now = .ok .mismatch ↔ t.secret ≠ supplied := by
  refine ⟨fun found => ?_, check_of_mismatch ttl now⟩
  have ends := t.checked supplied ttl now
  rw [found] at ends
  cases ends with
  | mismatch other => exact other

theorem check_eq_spent_iff :
    t.check supplied ttl now = .ok .spent ↔ t.secret = supplied ∧ t.used = true := by
  refine ⟨fun found => ?_, fun h => check_of_used ttl now h.1 h.2⟩
  have ends := t.checked supplied ttl now
  rw [found] at ends
  cases ends with
  | spent own used => exact ⟨own, used⟩

theorem check_eq_expired_iff : t.check supplied ttl now = .ok .expired ↔
    t.secret = supplied ∧ t.used = false ∧ t.isLate ttl now = true := by
  constructor
  · intro found
    have ends := t.checked supplied ttl now
    rw [found] at ends
    cases ends with
    | expired own unused late => exact ⟨own, unused, late⟩
  · rintro ⟨own, unused, late⟩
    rw [check_of_match now own (inCalendar_of_isLate late), unused, late]
    rfl

/-! ## The end of the window -/

/-- What is in time is so at an earlier time and for a longer validity. -/
theorem inTime_of_inTime (fine : t.createdAt.nano < 2000000000) (le : short ≤ long)
    (dated : t.InCalendar short) (order : earlier.isAfter later = false)
    (inTime : t.isLate short later = false) : t.isLate long earlier = false := by
  obtain ⟨first, ends⟩ := Option.isSome_iff_exists.1 dated
  rw [isLate, ends, Option.any_some] at inTime
  cases ends' : t.createdAt.addMillis long with
  | none =>
    rw [isLate, ends']
    rfl
  | some last =>
    rw [isLate, ends', Option.any_some]
    have mono : first.isAfter last = false := by
      rw [Instant.addMillis_eq_later fine ends, Instant.addMillis_eq_later fine ends']
      exact t.createdAt.not_isAfter_later (by omega)
    exact Instant.not_isAfter_trans (Instant.not_isAfter_trans order inTime) mono

/-- **The window of a token is an interval with an inclusive end.** A token that is valid is so at every
earlier time and for every longer validity; one that is too old is so at every later time and for every
shorter validity. It is valid at the last instant of its validity, and at no instant after that one, be it
a nanosecond later. A wrong string and a used token are told apart from these whatever the time, even if
the validity ends outside the calendar. -/
theorem validity_is_an_interval (t : Token) (supplied : String)
    (fine : t.createdAt.nano < 2000000000) :
    (∀ short long : Int, ∀ earlier later : Instant, short ≤ long → earlier.isAfter later = false →
      t.InCalendar short → t.InCalendar long →
      (t.check supplied short later = .ok .valid → t.check supplied long earlier = .ok .valid) ∧
      (t.check supplied long earlier = .ok .expired → t.check supplied short later = .ok .expired)) ∧
    (∀ (ttl : Int) (deadline : Instant), t.createdAt.addMillis ttl = some deadline →
      t.secret = supplied → t.used = false →
      t.check supplied ttl deadline = .ok .valid ∧
      t.check supplied ttl (deadline.later 1) = .ok .expired ∧
      ∀ now, now.isAfter deadline = true → t.check supplied ttl now = .ok .expired) ∧
    ∀ (ttl : Int) (now : Instant),
      (t.check supplied ttl now = .ok .mismatch ↔ t.secret ≠ supplied) ∧
      (t.check supplied ttl now = .ok .spent ↔ t.secret = supplied ∧ t.used = true) := by
  refine ⟨fun short long earlier later le order dated dated' => ⟨fun valid => ?_, fun expired => ?_⟩,
    fun ttl deadline ends own unused => ?_, fun ttl now => ⟨check_eq_mismatch_iff, check_eq_spent_iff⟩⟩
  · obtain ⟨own, unused, -, inTime⟩ := of_check_valid valid
    have inTime' := inTime_of_inTime fine le dated order inTime
    rw [check_of_match earlier own dated', unused, inTime']
    rfl
  · obtain ⟨own, unused, late⟩ := check_eq_expired_iff.1 expired
    refine check_eq_expired_iff.2 ⟨own, unused, ?_⟩
    rw [← Bool.not_eq_false]
    intro inTime
    rw [inTime_of_inTime fine le dated order inTime] at late
    cases late
  · have late (now : Instant) : t.isLate ttl now = now.isAfter deadline := by
      rw [isLate, ends, Option.any_some]
    have tooLate (now : Instant) (after : now.isAfter deadline = true) :
        t.check supplied ttl now = .ok .expired :=
      check_eq_expired_iff.2 ⟨own, unused, (late now).trans after⟩
    have fineDeadline : deadline.nano < 2000000000 := by
      rw [Instant.addMillis_eq_later fine ends]
      exact Instant.later_fine _ _
    have next := deadline.isAfter_later (show (0 : Int) < 1 by decide)
    rw [Instant.later_zero fineDeadline] at next
    have last := check_eq_valid_iff.2 ⟨own, unused, deadline, ends, deadline.isAfter_self⟩
    exact ⟨last, tooLate _ next, tooLate⟩

/-- A token that was created in the middle of the leap second at the end of 2016. -/
def leapToken : Token := ⟨"r1", "abc", ⟨1483228799, 1500000000⟩, false, none⟩

/-- A validity that reaches back into the leap second, and one that ends with it. -/
theorem leapToken_is_valid_to_the_end : leapToken.createdAt.nano < 2000000000 ∧
    leapToken.createdAt.addMillis (-100) = some ⟨1483228799, 1400000000⟩ ∧
    leapToken.createdAt.addMillis 500 = some ⟨1483228800, 0⟩ ∧
    leapToken.check "abc" (-100) ⟨1483228799, 1400000000⟩ = .ok .valid ∧
    leapToken.check "abc" 500 ⟨1483228799, 999999999⟩ = .ok .valid ∧
    leapToken.check "abc" 500 ⟨1483228800, 0⟩ = .ok .valid ∧
    leapToken.check "abc" 500 ⟨1483228800, 1⟩ = .ok .expired := by
  have fine : leapToken.createdAt.nano < 2000000000 := by decide
  have shortEnds : leapToken.createdAt.addMillis (-100) = some ⟨1483228799, 1400000000⟩ := by decide
  have longEnds : leapToken.createdAt.addMillis 500 = some ⟨1483228800, 0⟩ := by decide
  obtain ⟨interval, ends, -⟩ := validity_is_an_interval leapToken "abc" fine
  obtain ⟨last, next, -⟩ := ends 500 ⟨1483228800, 0⟩ longEnds rfl rfl
  obtain ⟨valid, -, -⟩ := ends (-100) ⟨1483228799, 1400000000⟩ shortEnds rfl rfl
  have longer := (interval (-100) 500 ⟨1483228799, 999999999⟩ ⟨1483228799, 1400000000⟩ (by decide)
    (by decide) (congrArg Option.isSome shortEnds) (congrArg Option.isSome longEnds)).1 valid
  exact ⟨fine, shortEnds, longEnds, valid, longer, last, next⟩

end Token

end ApprovalDesk
