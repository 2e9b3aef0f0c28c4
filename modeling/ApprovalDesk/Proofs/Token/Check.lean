import ApprovalDesk.Proofs.Store.History

/-!
# Checking tokens

What a check comes to, when the last instant of the validity is in the calendar: the string decides
first, then the use, then the time. A string that was valid once is still the right one later on.
-/

namespace ApprovalDesk

set_option autoImplicit false

open ApprovalDesk.Time

namespace Token

/-- The last instant of the validity has a place in the calendar. -/
def InCalendar (t : Token) (ttl : Int) : Prop := (t.createdAt.addMillis ttl).isSome = true

/-- The validity is over. -/
def isLate (t : Token) (ttl : Int) (now : Instant) : Bool :=
  (t.createdAt.addMillis ttl).any now.isAfter

/-- The check of the right string, when the end of the validity is in the calendar. -/
theorem check_of_match {t : Token} {supplied : String} {ttl : Int} (now : Instant)
    (own : t.secret = supplied) (dated : t.InCalendar ttl) :
    t.check supplied ttl now =
      .ok (if t.used then .spent else if t.isLate ttl now then .expired else .valid) := by
  obtain ⟨deadline, ends⟩ := Option.isSome_iff_exists.1 dated
  have late : t.isLate ttl now = now.isAfter deadline := by rw [isLate, ends]; rfl
  unfold check isMatch isExpired expiresAt
  rw [own, ends, late]
  simp only [beq_self_eq_true, Bool.not_true, Bool.false_eq_true, if_false, Except.map]
  split <;> rfl

theorem check_of_mismatch {t : Token} {supplied : String} (ttl : Int) (now : Instant)
    (other : t.secret ≠ supplied) : t.check supplied ttl now = .ok .mismatch := by
  unfold check isMatch
  simp [other]

theorem check_of_used {t : Token} {supplied : String} (ttl : Int) (now : Instant)
    (own : t.secret = supplied) (used : t.used = true) : t.check supplied ttl now = .ok .spent := by
  unfold check isMatch
  simp [own, used]

/-- A token that is late has an end of its validity. -/
theorem inCalendar_of_isLate {t : Token} {ttl : Int} {now : Instant} (late : t.isLate ttl now = true) :
    t.InCalendar ttl := by
  rw [isLate, Option.any_eq_true_iff_get] at late
  obtain ⟨dated, -⟩ := late
  exact dated

/-- The right string is no use if the token is used or late. -/
theorem check_of_useless {t : Token} {supplied : String} {ttl : Int} {now : Instant}
    (own : t.secret = supplied) (useless : t.used = true ∨ t.isLate ttl now = true) :
    t.check supplied ttl now = .ok .spent ∨ t.check supplied ttl now = .ok .expired := by
  cases used : t.used with
  | true => exact Or.inl (check_of_used ttl now own used)
  | false =>
    have late : t.isLate ttl now = true := useless.resolve_left (by simp [used])
    rw [check_of_match now own (inCalendar_of_isLate late), used, late]
    exact Or.inr rfl

/-- A check does not crash on a used token, nor while the end of the validity is in the calendar. -/
theorem check_total {t : Token} {ttl : Int} (settled : t.used = true ∨ t.InCalendar ttl)
    (supplied : String) (now : Instant) : ∃ v, t.check supplied ttl now = .ok v := by
  by_cases own : t.secret = supplied
  · rcases settled with used | dated
    · refine ⟨.spent, ?_⟩
      unfold check isMatch
      simp [own, used]
    · exact ⟨_, check_of_match now own dated⟩
  · exact ⟨_, check_of_mismatch ttl now own⟩

/-- A check that finds the string valid has read all of the token. -/
theorem of_check_valid {t : Token} {supplied : String} {ttl : Int} {now : Instant}
    (valid : t.check supplied ttl now = .ok .valid) :
    t.secret = supplied ∧ t.used = false ∧ t.InCalendar ttl ∧ t.isLate ttl now = false := by
  by_cases own : t.secret = supplied
  · cases used : t.used with
    | true =>
      unfold check isMatch at valid
      simp [own, used] at valid
    | false =>
      cases ends : t.createdAt.addMillis ttl with
      | none =>
        unfold check isMatch isExpired expiresAt at valid
        simp [own, used, ends, Except.map] at valid
      | some deadline =>
        have dated : t.InCalendar ttl := by rw [InCalendar, ends]; rfl
        refine ⟨own, rfl, dated, ?_⟩
        rw [check_of_match now own dated, used] at valid
        cases late : t.isLate ttl now with
        | false => rfl
        | true => simp [late] at valid
  · rw [check_of_mismatch ttl now own] at valid
    cases valid

/-- A decision that a token lets through comes with the string of that token, which is unused. -/
theorem of_guard_valid {token : Option Token} {g : Guard} {now : Instant}
    (valid : guardVerdict token (some g) now = .ok .valid) :
    ∃ t, token = some t ∧ t.secret = g.supplied ∧ t.used = false := by
  cases token with
  | none => cases valid
  | some t =>
    obtain ⟨own, unused, -⟩ := of_check_valid (valid : t.check g.supplied g.ttl now = .ok .valid)
    exact ⟨t, rfl, own, unused⟩

/-- The supplied string is valid exactly if it is the one on record, unused, and its last instant has
not passed. -/
theorem check_eq_valid_iff {t : Token} {supplied : String} {ttl : Int} {now : Instant} :
    t.check supplied ttl now = .ok .valid ↔
      t.secret = supplied ∧ t.used = false ∧
        ∃ deadline, t.createdAt.addMillis ttl = some deadline ∧ now.isAfter deadline = false := by
  constructor
  · intro valid
    obtain ⟨own, unused, dated, inTime⟩ := of_check_valid valid
    obtain ⟨deadline, ends⟩ := Option.isSome_iff_exists.1 dated
    rw [isLate, ends] at inTime
    exact ⟨own, unused, deadline, ends, inTime⟩
  · rintro ⟨own, unused, deadline, ends, inTime⟩
    have dated : t.InCalendar ttl := by
      rw [InCalendar, ends]
      rfl
    have onTime : t.isLate ttl now = false := by
      rw [isLate, ends]
      exact inTime
    rw [check_of_match now own dated, unused, onTime]
    rfl

/-- A string that was valid once is valid, spent or expired later, whatever the clock says. -/
theorem check_after_valid {t t' : Token} {supplied : String} {ttl : Int} {earlier : Instant}
    (valid : t.check supplied ttl earlier = .ok .valid) (goes_on : t.Continues t') (now : Instant) :
    ∃ v, t'.check supplied ttl now = .ok v ∧ (v = .valid ∨ v = .spent ∨ v = .expired) := by
  obtain ⟨own, -, dated, -⟩ := of_check_valid valid
  have own' : t'.secret = supplied := goes_on.secret.trans own
  have dated' : t'.InCalendar ttl := by
    rw [InCalendar, goes_on.createdAt]
    exact dated
  refine ⟨_, check_of_match now own' dated', ?_⟩
  cases t'.used with
  | true => exact Or.inr (Or.inl rfl)
  | false =>
    cases t'.isLate ttl now with
    | true => exact Or.inr (Or.inr rfl)
    | false => exact Or.inl rfl

end Token

end ApprovalDesk
