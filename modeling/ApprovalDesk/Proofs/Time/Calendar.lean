import ApprovalDesk.Time.Instant

/-!
# Days and their numbers

A day is given by its number, by its date, and by the year and the day counted from 1 March
(`MarchDay`). The three agree: the number of the date of a number is that number, and the date exists.
-/

namespace ApprovalDesk.Time

set_option autoImplicit false

/-- A day counted from 1 March of a year; day 365 is there only if the year ends in a leap day. -/
structure MarchDay where
  year : Int
  day : Int
  day_nonneg : 0 ≤ day
  day_le : day ≤ 365
  leap : day = 365 → isLeapYear (year + 1) = true

namespace MarchDay

/-- The number of the day. -/
def number (m : MarchDay) : Int :=
  365 * m.year + m.year / 4 - m.year / 100 + m.year / 400 + m.day - 719468

/-- The month, counted from March. -/
def month (m : MarchDay) : Int := (5 * m.day + 2) / 153

/-- The date of the day. -/
def date (m : MarchDay) : Date where
  year := if m.month < 10 then m.year else m.year + 1
  month := (if m.month < 10 then m.month + 3 else m.month - 9).toNat
  day := (m.day - (153 * m.month + 2) / 5 + 1).toNat

theorem month_bounds (m : MarchDay) : 0 ≤ m.month ∧ m.month ≤ 11 := by
  have low := m.day_nonneg
  have high := m.day_le
  unfold month
  omega

/-- The month in which a day is. -/
theorem day_in_month (m : MarchDay) :
    (153 * m.month + 2) / 5 ≤ m.day ∧ m.day < (153 * (m.month + 1) + 2) / 5 := by
  have low := m.day_nonneg
  unfold month
  omega

theorem toDays_date (m : MarchDay) : m.date.toDays = m.number := by
  have bounds := m.month_bounds
  have inMonth := m.day_in_month
  have day : ((m.day - (153 * m.month + 2) / 5 + 1).toNat : Int) =
      m.day - (153 * m.month + 2) / 5 + 1 := by omega
  unfold Date.toDays date number
  dsimp only
  rw [day]
  by_cases early : m.month < 10
  · rw [if_pos early, if_pos early]
    have month : ((m.month + 3).toNat : Int) = m.month + 3 := by omega
    have notJanuary : ¬ (m.month + 3).toNat ≤ 2 := by omega
    have fromMarch : (m.month + 3 + 9) % 12 = m.month := by omega
    rw [if_neg notJanuary, month, fromMarch]
    omega
  · rw [if_neg early, if_neg early]
    have month : ((m.month - 9).toNat : Int) = m.month - 9 := by omega
    have january : (m.month - 9).toNat ≤ 2 := by omega
    have fromMarch : (m.month - 9 + 9) % 12 = m.month := by omega
    rw [if_pos january, month, fromMarch]
    omega

/-- Every month but February has the length that the day counts. -/
theorem length_of_month (year : Int) {k : Int} (low : 0 ≤ k) (high : k ≤ 10) :
    (153 * (k + 1) + 2) / 5 - (153 * k + 2) / 5 =
      daysInMonth (if k < 10 then year else year + 1) (if k < 10 then k + 3 else k - 9).toNat := by
  have months : k = 0 ∨ k = 1 ∨ k = 2 ∨ k = 3 ∨ k = 4 ∨ k = 5 ∨ k = 6 ∨ k = 7 ∨ k = 8 ∨ k = 9 ∨
      k = 10 := by omega
  rcases months with rfl | rfl | rfl | rfl | rfl | rfl | rfl | rfl | rfl | rfl | rfl <;> rfl

/-- The date exists. -/
theorem isValid_date (m : MarchDay) : m.date.isValid = true := by
  have bounds := m.month_bounds
  obtain ⟨first, last⟩ := m.day_in_month
  unfold Date.isValid date
  rw [Bool.and_eq_true, decide_eq_true_eq, decide_eq_true_eq]
  dsimp only
  by_cases february : m.month = 11
  · have high := m.day_le
    have length : (28 : Int) + (if m.day = 365 then 1 else 0) ≤ daysInMonth (m.year + 1) 2 := by
      simp only [daysInMonth]
      by_cases leapDay : m.day = 365
      · rw [if_pos leapDay, m.leap leapDay]
        decide
      · rw [if_neg leapDay]
        split <;> decide
    rw [february] at first ⊢
    have month : ((if (11 : Int) < 10 then 11 + 3 else 11 - 9) : Int).toNat = 2 := rfl
    rw [month, if_neg (by decide)]
    split at length <;> omega
  · have length := length_of_month m.year bounds.1 (by omega)
    omega

/-- The first ten months are those of the days before 1 January. -/
theorem month_lt_ten_iff (m : MarchDay) : m.month < 10 ↔ m.day < 306 := by
  unfold month
  omega

theorem year_date (m : MarchDay) : m.date.year = if m.day < 306 then m.year else m.year + 1 := by
  have months := m.month_lt_ten_iff
  unfold date
  dsimp only
  split <;> split <;> omega

end MarchDay

/-! ## Days of an era -/

/-- A day of an era of 400 years, counted from 0 on: so many centuries, spans of four years, years and
days have gone by. Only the last day of a span of four years has 365 days before it in its year, and such
a span may end a century only at the end of the era. -/
structure EraDay where
  century : Int
  span : Int
  year : Int
  day : Int
  century_bounds : 0 ≤ century ∧ century ≤ 3
  span_bounds : 0 ≤ span ∧ span ≤ 24
  year_bounds : 0 ≤ year ∧ year ≤ 3
  day_bounds : 0 ≤ day ∧ day ≤ 365
  leap : day = 365 → year = 3 ∧ (span ≤ 23 ∨ century = 3)

namespace EraDay

/-- The number of days of the era that have gone by. -/
def number (e : EraDay) : Int := 36524 * e.century + 1461 * e.span + 365 * e.year + e.day

/-- The number of years of the era that have gone by. -/
def years (e : EraDay) : Int := 100 * e.century + 4 * e.span + e.year

theorem exists_number {n : Int} (low : 0 ≤ n) (high : n < 146097) : ∃ e : EraDay, e.number = n := by
  obtain ⟨c, r, century, rest, split⟩ : ∃ c r : Int, (0 ≤ c ∧ c ≤ 3) ∧
      (0 ≤ r ∧ r ≤ 36524 ∧ (r = 36524 → c = 3)) ∧ n = 36524 * c + r := by
    by_cases last : n = 146096
    · exact ⟨3, 36524, by omega, by omega, by omega⟩
    · exact ⟨n / 36524, n % 36524, by omega, by omega, by omega⟩
  have span : 0 ≤ r / 1461 ∧ r / 1461 ≤ 24 := by omega
  by_cases leapDay : r % 1461 = 1460
  · refine ⟨⟨c, r / 1461, 3, 365, century, span, by omega, by omega, by omega⟩, ?_⟩
    unfold number
    dsimp only
    omega
  · refine ⟨⟨c, r / 1461, r % 1461 / 365, r % 1461 % 365, century, span, by omega, by omega, by omega⟩,
      ?_⟩
    unfold number
    dsimp only
    omega

/-- The years of the era that have gone by, as they are reckoned from the days. -/
theorem years_of_number (e : EraDay) :
    (e.number - e.number / 1460 + e.number / 36524 - e.number / 146096) / 365 = e.years := by
  obtain ⟨c, q, y, d, century, span, year, day, leap⟩ := e
  unfold number years
  dsimp only
  generalize whole : 36524 * c + 1461 * q + 365 * y + d = n
  -- The last two quotients differ from the century at the last day of the era only, and cancel there.
  have eras : n / 146096 = if n = 146096 then 1 else 0 := by split <;> omega
  have centuries : n / 36524 = if n = 146096 then 4 else c := by split <;> omega
  have corrected : n - n / 1460 + n / 36524 - n / 146096 = n - n / 1460 + c := by
    rw [eras, centuries]
    split <;> omega
  have spans : n / 1460 = 25 * c + q + if 24 * c + q + 365 * y + d < 1460 then 0 else 1 := by
    split <;> omega
  rw [corrected, spans]
  split <;> omega

/-- The day of an era, counted from 1 March of its year. -/
def inEra (e : EraDay) (era : Int) : MarchDay where
  year := 400 * era + e.years
  day := e.day
  day_nonneg := e.day_bounds.1
  day_le := e.day_bounds.2
  leap := by
    intro leapDay
    have last := e.leap leapDay
    have span := e.span_bounds
    have century := e.century_bounds
    unfold years
    simp only [isLeapYear, Bool.or_eq_true, Bool.and_eq_true, beq_iff_eq, bne_iff_ne]
    omega

theorem number_inEra (e : EraDay) (era : Int) :
    (e.inEra era).number = 146097 * era + e.number - 719468 := by
  have span := e.span_bounds
  have century := e.century_bounds
  have year := e.year_bounds
  have four : (400 * era + e.years) / 4 = 100 * era + 25 * e.century + e.span := by
    unfold years
    omega
  have hundred : (400 * era + e.years) / 100 = 4 * era + e.century := by
    unfold years
    omega
  have all : (400 * era + e.years) / 400 = era := by
    unfold years
    omega
  unfold MarchDay.number inEra
  dsimp only
  rw [four, hundred, all]
  unfold number years
  omega

/-- The date that is reckoned from a number is the date of the day with that number. -/
theorem ofDays_number (e : EraDay) (era : Int) :
    Date.ofDays (146097 * era + e.number - 719468) = (e.inEra era).date := by
  have span := e.span_bounds
  have century := e.century_bounds
  have year := e.year_bounds
  have day := e.day_bounds
  have low : 0 ≤ e.number := by
    unfold number
    omega
  have high : e.number < 146097 := by
    have leap := e.leap
    unfold number
    omega
  have shifted : 146097 * era + e.number - 719468 + 719468 = 146097 * era + e.number := by omega
  have sameEra : (146097 * era + e.number) / 146097 = era := by omega
  have sameDay : 146097 * era + e.number - era * 146097 = e.number := by omega
  have four : e.years / 4 = 25 * e.century + e.span := by
    unfold years
    omega
  have hundred : e.years / 100 = e.century := by
    unfold years
    omega
  have dayOfYear : e.number - (365 * e.years + e.years / 4 - e.years / 100) = e.day := by
    rw [four, hundred]
    unfold number years
    omega
  unfold Date.ofDays MarchDay.date MarchDay.month inEra
  dsimp only
  rw [shifted, sameEra, sameDay, years_of_number, dayOfYear]
  by_cases early : (5 * e.day + 2) / 153 < 10
  · have notJanuary : ¬ (5 * e.day + 2) / 153 + 3 ≤ 2 := by omega
    rw [if_pos early, if_neg notJanuary, if_pos early, Int.add_comm, Int.mul_comm]
  · have january : (5 * e.day + 2) / 153 - 9 ≤ 2 := by omega
    rw [if_neg early, if_pos january, if_neg early, Int.add_comm e.years, Int.mul_comm]

end EraDay

/-! ## Numbers and dates -/

/-- Every number is the number of a day, and its date is the date of that day. -/
theorem exists_marchDay (days : Int) : ∃ m : MarchDay, m.number = days ∧ Date.ofDays days = m.date := by
  obtain ⟨e, number⟩ := EraDay.exists_number (n := (days + 719468) % 146097) (by omega) (by omega)
  have whole : 146097 * ((days + 719468) / 146097) + e.number - 719468 = days := by
    rw [number]
    omega
  refine ⟨e.inEra ((days + 719468) / 146097), ?_, ?_⟩
  · rw [EraDay.number_inEra, whole]
  · rw [← EraDay.ofDays_number, whole]

/-- The number of the date of a number. -/
theorem Date.toDays_ofDays (days : Int) : (Date.ofDays days).toDays = days := by
  obtain ⟨m, number, date⟩ := exists_marchDay days
  rw [date, m.toDays_date, number]

/-- The date of a number exists. -/
theorem Date.isValid_ofDays (days : Int) : (Date.ofDays days).isValid = true := by
  obtain ⟨m, -, date⟩ := exists_marchDay days
  rw [date, m.isValid_date]

/-- The month and the day of a date that exists. -/
theorem Date.bounds_of_isValid {d : Date} (valid : d.isValid = true) :
    (1 ≤ d.month ∧ d.month ≤ 12) ∧ 1 ≤ d.day ∧ d.day ≤ 31 := by
  have days : d.day ≤ daysInMonth d.year d.month ∧ 1 ≤ d.day := by
    rw [isValid, Bool.and_eq_true, decide_eq_true_eq, decide_eq_true_eq] at valid
    exact ⟨valid.2, valid.1⟩
  have few : daysInMonth d.year d.month ≤ 31 ∧
      (daysInMonth d.year d.month ≠ 0 → 1 ≤ d.month ∧ d.month ≤ 12) := by
    unfold daysInMonth
    split
    case h_12 =>
      split <;> omega
    all_goals omega
  omega

namespace Instant

/-- An instant of the calendar is in one of its years. -/
theorem year_bounds {t : Instant} (dated : inCalendar t.second = true) :
    firstYear ≤ t.year ∧ t.year ≤ lastYear := by
  have first : firstSecond = -8334601228800 := by rfl
  have last : lastSecond = 8210266876799 := by rfl
  rw [inCalendar, Bool.and_eq_true, decide_eq_true_eq, decide_eq_true_eq, first, last] at dated
  obtain ⟨m, number, date⟩ := exists_marchDay (t.second / 86400)
  have low := m.day_nonneg
  have high := m.day_le
  -- The leap days by centuries, which makes plain that there are never fewer of them later on.
  have four : m.year / 4 = 25 * (m.year / 100) + m.year % 100 / 4 := by omega
  have fourHundred : m.year / 400 = m.year / 100 / 4 := by omega
  unfold MarchDay.number at number
  rw [four, fourHundred] at number
  rw [year, Instant.date, date, m.year_date, firstYear, lastYear]
  split
  · constructor <;> omega
  · constructor <;> omega

end Instant

end ApprovalDesk.Time
