import ApprovalDesk.Proofs.Results
import ApprovalDesk.Proofs.Text.Decimal
import ApprovalDesk.Proofs.Time.Calendar
import ApprovalDesk.Time.Timestamp

/-!
# A timestamp is read back

Each part of a timestamp has its own reader, which takes the part off the front of the text and leaves
the rest. So there is one equation for each part, with any rest that may stand there, and the equation
for the whole follows from them in the order in which the parts are written.
-/

set_option autoImplicit false

namespace ApprovalDesk.Time.Timestamp

open ApprovalDesk.Text

/-! ## Digits -/

/-- A blank is no digit. -/
theorem isBlank_of_isDigit {c : Char} (digit : Decimal.isDigit c = true) : isBlank c = false := by
  have range : 0x30 ≤ c.toNat ∧ c.toNat ≤ 0x39 := by
    rw [Decimal.isDigit, Bool.and_eq_true, decide_eq_true_eq, decide_eq_true_eq] at digit
    exact digit
  unfold isBlank
  simp only [Bool.or_eq_false_iff, Bool.and_eq_false_iff, decide_eq_false_iff_not, beq_eq_false_iff_ne]
  omega

theorem trimStartChars_cons {c : Char} (visible : isBlank c = false) (cs : List Char) :
    trimStartChars (c :: cs) = c :: cs := by
  rw [trimStartChars, List.dropWhile_cons, visible, if_neg Bool.false_ne_true]

/-- A number is not preceded by blanks. -/
theorem trimStartChars_run {ds : List Char} (run : ∀ c ∈ ds, Decimal.isDigit c = true)
    (nonempty : ds ≠ []) (rest : List Char) : trimStartChars (ds ++ rest) = ds ++ rest := by
  cases ds with
  | nil => exact absurd rfl nonempty
  | cons d ds => exact trimStartChars_cons (isBlank_of_isDigit (run d List.mem_cons_self)) _

/-- The rest of a text does not go on with a digit. -/
def EndsRun (rest : List Char) : Prop := ∀ c, rest.head? = some c → Decimal.isDigit c = false

theorem takeWhile_run {ds rest : List Char} (run : ∀ c ∈ ds, Decimal.isDigit c = true)
    (ends : EndsRun rest) : (ds ++ rest).takeWhile Decimal.isDigit = ds := by
  rw [List.takeWhile_append_of_pos run]
  cases rest with
  | nil => exact List.append_nil ds
  | cons c rest =>
    have stop : Decimal.isDigit c = false := ends c rfl
    rw [List.takeWhile_cons, stop, if_neg Bool.false_ne_true, List.append_nil]

theorem takeWhile_self {ds : List Char} (run : ∀ c ∈ ds, Decimal.isDigit c = true) :
    ds.takeWhile Decimal.isDigit = ds := by
  have ends : EndsRun [] := by
    intro c first
    cases first
  have whole := takeWhile_run run ends
  rwa [List.append_nil] at whole

/-- A run of digits is read up to the width, or as far as it goes. -/
theorem digits_run {ds rest : List Char} {width : Nat} (run : ∀ c ∈ ds, Decimal.isDigit c = true)
    (nonempty : ds ≠ []) (ends : ds.length = width ∨ ds.length ≤ width ∧ EndsRun rest) :
    digits width (ds ++ rest) = .ok (Decimal.toNat ds, rest) := by
  have taken : ((ds ++ rest).take width).takeWhile Decimal.isDigit = ds := by
    rcases ends with full | ⟨fits, ends⟩
    · rw [List.take_left' full]
      exact takeWhile_self run
    · rw [List.take_append, List.take_of_length_le fits]
      apply takeWhile_run run
      intro c first
      rw [List.head?_take] at first
      split at first
      · cases first
      · exact ends c first
  cases ds with
  | nil => exact absurd rfl nonempty
  | cons d ds =>
    have first : Decimal.isDigit d = true := run d List.mem_cons_self
    rw [List.cons_append] at taken ⊢
    rw [digits]
    dsimp only
    rw [if_pos first, taken, ← List.cons_append, List.drop_left]

section Padded

variable {width n : Nat} (positive : 0 < width) (bound : n < 10 ^ width)

include positive bound

theorem digits_padded (rest : List Char) :
    digits width (Decimal.padded width n ++ rest) = .ok (n, rest) := by
  have run := Decimal.forall_isDigit_padded width n
  have full : (Decimal.padded width n).length = width := Decimal.length_padded positive bound
  rw [digits_run run (Decimal.padded_ne_nil width n) (.inl full), Decimal.toNat_padded]

/-- A number in its range is read back from its digits. -/
theorem field_padded {lo hi : Nat} (low : lo ≤ n) (high : n ≤ hi) (rest : List Char) :
    field width lo hi (Decimal.padded width n ++ rest) = .ok (n, rest) := by
  unfold field
  rw [trimStartChars_run (Decimal.forall_isDigit_padded width n) (Decimal.padded_ne_nil width n),
    digits_padded positive bound]
  exact if_pos ⟨low, high⟩

end Padded

/-! ## The year -/

/-- Without a sign four digits are the year. -/
theorem yearField_unsigned {n : Nat} (bound : n < 10 ^ 4) (rest : List Char) :
    yearField (Decimal.padded 4 n ++ rest) = .ok ((n : Int), rest) := by
  have run := Decimal.forall_isDigit_padded 4 n
  have nonempty := Decimal.padded_ne_nil 4 n
  have read := digits_padded (by decide) bound rest
  unfold yearField
  rw [trimStartChars_run run nonempty]
  generalize Decimal.padded 4 n = ds at run nonempty read
  cases ds with
  | nil => exact absurd rfl nonempty
  | cons d ds =>
    have digit : Decimal.isDigit d = true := run d List.mem_cons_self
    have minus : d ≠ '-' := by
      rintro rfl
      cases digit
    have plus : d ≠ '+' := by
      rintro rfl
      cases digit
    rw [List.cons_append] at read ⊢
    dsimp only
    split
    · next same => exact absurd (List.cons.inj same).1 minus
    · next same => exact absurd (List.cons.inj same).1 plus
    · rw [read]
      exact if_pos ⟨by omega, by omega⟩

/-- After a sign all the digits that follow are the year. -/
theorem yearField_signed {n : Nat} (bound : n ≤ 2147483647) {rest : List Char} (ends : EndsRun rest)
    (negative : Prop) [Decidable negative] :
    yearField ((if negative then '-' else '+') :: Decimal.padded 4 n ++ rest) =
      .ok (if negative then -(n : Int) else n, rest) := by
  have fits : (Decimal.padded 4 n).length ≤ (Decimal.padded 4 n ++ rest).length := by
    rw [List.length_append]
    omega
  have read := digits_run (Decimal.forall_isDigit_padded 4 n) (Decimal.padded_ne_nil 4 n)
    (.inr ⟨fits, ends⟩)
  rw [Decimal.toNat_padded] at read
  unfold yearField
  by_cases sign : negative
  · rw [if_pos sign, if_pos sign, List.cons_append, trimStartChars_cons (by decide)]
    simp only [read]
    exact if_pos ⟨by omega, by omega⟩
  · rw [if_neg sign, if_neg sign, List.cons_append, trimStartChars_cons (by decide)]
    simp only [read]
    exact if_pos ⟨by omega, by omega⟩

/-- A year of the calendar is read back. -/
theorem yearField_yearChars {year : Int} (low : firstYear ≤ year) (high : year ≤ lastYear)
    {rest : List Char} (ends : EndsRun rest) :
    yearField (yearChars year ++ rest) = .ok (year, rest) := by
  unfold firstYear at low
  unfold lastYear at high
  unfold yearChars
  by_cases plain : 0 ≤ year ∧ year ≤ 9999
  · have value : (year.toNat : Int) = year := by omega
    rw [if_pos plain, yearField_unsigned (by omega) rest, value]
  · have value : (if year < 0 then -(year.natAbs : Int) else year.natAbs) = year := by
      split <;> omega
    rw [if_neg plain, yearField_signed (by omega) ends, value]

/-! ## Marks -/

theorem mark_cons {c : Char} (visible : isBlank c = false) (rest : List Char) :
    mark c (c :: rest) = .ok rest := by
  unfold mark
  rw [trimStartChars_cons visible]
  exact if_pos rfl

/-! ## The fraction -/

/-- A fraction with so many digits is read back as nanoseconds. -/
theorem fraction_padded {width n nano : Nat} (positive : 0 < width) (fits : width ≤ 9)
    (bound : n < 10 ^ width) (value : n * 10 ^ (9 - width) = nano) {rest : List Char}
    (ends : EndsRun rest) : fraction ('.' :: Decimal.padded width n ++ rest) = .ok (nano, rest) := by
  have run := Decimal.forall_isDigit_padded width n
  have length := Decimal.length_padded positive bound
  have short : (Decimal.padded width n).length ≤ 9 := by omega
  have read := digits_run run (Decimal.padded_ne_nil width n) (.inr ⟨short, ends⟩)
  rw [List.cons_append, fraction, read]
  show Except.ok _ = _
  rw [takeWhile_run run ends, List.take_of_length_le short, Decimal.toNat_padded, List.drop_left,
    length, ← value]
  rfl

/-- The fewest digits that are exact are read back exactly. -/
theorem fraction_fractionChars {nano : Nat} (bound : nano < 1000000000) {rest : List Char}
    (ends : EndsRun rest) (noPoint : ∀ more, rest ≠ '.' :: more) :
    fraction (fractionChars nano ++ rest) = .ok (nano, rest) := by
  unfold fractionChars
  by_cases zero : nano = 0
  · rw [if_pos zero, List.nil_append, zero, fraction]
    exact noPoint
  rw [if_neg zero]
  by_cases millis : nano % 1000000 = 0
  · rw [if_pos millis]
    exact fraction_padded (by decide) (by decide) (by omega) (by omega) ends
  rw [if_neg millis]
  by_cases micros : nano % 1000 = 0
  · rw [if_pos micros]
    exact fraction_padded (by decide) (by decide) (by omega) (by omega) ends
  rw [if_neg micros]
  exact fraction_padded (by decide) (by decide) bound (by omega) ends

/-! ## The whole -/

/-- A second that is written as 60 is the leap second. -/
def writtenSecond (t : Instant) : Nat := t.secondOfDay % 60 + if t.nano ≥ 1000000000 then 1 else 0

/-- The nanoseconds that are written, which start again in a leap second. -/
def writtenNano (t : Instant) : Nat := if t.nano ≥ 1000000000 then t.nano - 1000000000 else t.nano

/-- The parts of a timestamp as an instant has them. -/
def partsOf (t : Instant) : Parts where
  date := t.date
  hour := t.secondOfDay / 3600
  minute := t.secondOfDay / 60 % 60
  second := writtenSecond t
  nano := writtenNano t
  offset := 0

theorem secondOfDay_lt (t : Instant) : t.secondOfDay < 86400 := by
  unfold Instant.secondOfDay
  omega

/-- The parts of a timestamp are read back. -/
theorem parts_write {t : Instant} (valid : t.Valid) :
    parts (localChars t ++ ['Z']) = .ok (partsOf t) := by
  obtain ⟨dated, nanos⟩ := valid
  have year : firstYear ≤ t.date.year ∧ t.date.year ≤ lastYear := Instant.year_bounds dated
  have onCalendar : t.date.isValid = true := Date.isValid_ofDays (t.second / 86400)
  obtain ⟨month, day⟩ := Date.bounds_of_isValid onCalendar
  have time := secondOfDay_lt t
  have second : writtenSecond t ≤ 60 := by
    unfold writtenSecond
    split <;> omega
  have nano : writtenNano t < 1000000000 := by
    unfold writtenNano
    split <;> omega
  have text : localChars t ++ ['Z'] = yearChars t.date.year ++ '-' :: (Decimal.padded 2 t.date.month ++
      '-' :: (Decimal.padded 2 t.date.day ++ 'T' :: (Decimal.padded 2 (t.secondOfDay / 3600) ++
        ':' :: (Decimal.padded 2 (t.secondOfDay / 60 % 60) ++
          ':' :: (Decimal.padded 2 (writtenSecond t) ++
            (fractionChars (writtenNano t) ++ ['Z'])))))) := by
    unfold localChars dateChars timeChars
    simp only [List.append_assoc, List.cons_append]
    rfl
  have atDash (rest : List Char) : EndsRun ('-' :: rest) := by
    intro c first
    cases first
    rfl
  have atZ : EndsRun ['Z'] := by
    intro c first
    cases first
    rfl
  have noPoint : ∀ more, ['Z'] ≠ '.' :: more := by
    intro more same
    cases same
  rw [text, parts, yearField_yearChars year.1 year.2 (atDash _), ok_bind]
  dsimp only
  rw [mark_cons (by decide), ok_bind, field_padded (by decide) (by omega) month.1 month.2, ok_bind]
  dsimp only
  rw [mark_cons (by decide), ok_bind, field_padded (by decide) (by omega) day.1 day.2, ok_bind]
  dsimp only
  rw [if_pos (by decide), ok_bind, field_padded (by decide) (by omega) (by omega) (by omega), ok_bind]
  dsimp only
  rw [mark_cons (by decide), ok_bind, field_padded (by decide) (by omega) (by omega) (by omega), ok_bind]
  dsimp only
  rw [mark_cons (by decide), ok_bind, field_padded (by decide) (by omega) (by omega) second, ok_bind]
  dsimp only
  rw [fraction_fractionChars nano atZ noPoint]
  rfl

/-- The parts of an instant name it. -/
theorem instant_partsOf {t : Instant} (valid : t.Valid) : (partsOf t).instant = .ok t := by
  obtain ⟨dated, nanos⟩ := valid
  have year : firstYear ≤ t.date.year ∧ t.date.year ≤ lastYear := Instant.year_bounds dated
  have onCalendar : t.date.isValid = true := Date.isValid_ofDays (t.second / 86400)
  have days : t.date.toDays = t.second / 86400 := Date.toDays_ofDays (t.second / 86400)
  have accepted : ¬ (t.date.year < firstYear ∨ lastYear < t.date.year ∨ (!t.date.isValid) = true) := by
    rw [onCalendar]
    simp only [Bool.not_true, Bool.false_eq_true, or_false]
    omega
  have leap : writtenSecond t = 60 ↔ t.nano ≥ 1000000000 := by
    unfold writtenSecond Instant.secondOfDay
    split <;> omega
  have second : (if writtenSecond t = 60 then 59 else writtenSecond t) = t.secondOfDay % 60 := by
    unfold writtenSecond at leap ⊢
    unfold Instant.secondOfDay at leap ⊢
    split <;> split <;> omega
  have nano : writtenNano t + (if writtenSecond t = 60 then 1000000000 else 0) = t.nano := by
    unfold writtenNano
    split <;> split <;> omega
  have whole : t.second / 86400 * 86400 + ((t.secondOfDay / 3600 * 3600 +
      t.secondOfDay / 60 % 60 * 60 + t.secondOfDay % 60 : Nat) : Int) - 0 = t.second := by
    unfold Instant.secondOfDay
    omega
  unfold Parts.instant partsOf
  dsimp only
  rw [if_neg accepted, if_neg (by decide), days, second, whole, if_pos dated, nano]

/-- **A timestamp is read back**: any instant of the calendar, with any fraction of a second, and also in
a leap second. -/
theorem read_write {t : Instant} (valid : t.Valid) : read (write t) = .ok t := by
  rw [read, write, String.toList_ofList, parts_write valid, ok_bind, instant_partsOf valid]

end ApprovalDesk.Time.Timestamp
