import ApprovalDesk.Text.Utf8

/-!
# Reading back UTF-8

Whatever text is written as UTF-8, the reader yields its characters again and no piece without meaning,
also when more bytes follow. A character of one to four bytes is read byte by byte; which bytes may
continue it depends on its first one, and those that were written always may.
-/

namespace ApprovalDesk.Text.Utf8

set_option autoImplicit false

/-! ## The first byte of a character -/

theorem toNat_ofNat {n : Nat} (byte : n < 256) : (UInt8.ofNat n).toNat = n := by
  simp [Nat.mod_eq_of_lt byte]

/-- A byte that is a character by itself. -/
theorem feed_one {n : Nat} (high : n < 128) :
    feed .fresh (UInt8.ofNat n) = ([some (Char.ofNat n)], .fresh) := by
  have value := toNat_ofNat (show n < 256 by omega)
  have ascii : UInt8.ofNat n < 0x80 := by
    rw [UInt8.lt_iff_toNat_lt, value]
    exact high
  rw [feed, lead, if_pos ascii, value]

/-- The first of two bytes. -/
theorem feed_two : ∀ n < 32, 2 ≤ n →
    feed .fresh (UInt8.ofNat (n + 192)) = ([], .inside 1 0x80 0xBF n) := by
  decide

/-- The first of three bytes. The second is bounded so that no character has a longer form than it needs
and none is a surrogate. -/
theorem feed_three : ∀ n < 16, feed .fresh (UInt8.ofNat (n + 224)) =
    ([], .inside 2 (if n = 0 then 0xA0 else 0x80) (if n = 13 then 0x9F else 0xBF) n) := by
  decide

/-- The first of four bytes. The second is bounded so that no character has a longer form than it needs
and none lies beyond the last one. -/
theorem feed_four : ∀ n < 5, feed .fresh (UInt8.ofNat (n + 240)) =
    ([], .inside 3 (if n = 0 then 0x90 else 0x80) (if n = 4 then 0x8F else 0xBF) n) := by
  decide

/-! ## The bytes that continue it -/

section Inside

variable {n acc : Nat} {lo hi : UInt8} (bits : n < 64) (low : lo.toNat ≤ n + 128)
  (high : n + 128 ≤ hi.toNat)

include bits low high

/-- A byte within its bounds adds six bits to the value. -/
theorem feed_inside (need : Nat) :
    feed (.inside need lo hi acc) (UInt8.ofNat (n + 128)) =
      match need with
      | 0 | 1 => ([some (Char.ofNat (acc * 64 + n))], .fresh)
      | m + 1 => ([], .inside m 0x80 0xBF (acc * 64 + n)) := by
  have value := toNat_ofNat (show n + 128 < 256 by omega)
  have due : (decide (lo ≤ UInt8.ofNat (n + 128)) && decide (UInt8.ofNat (n + 128) ≤ hi)) = true := by
    simp only [UInt8.le_iff_toNat_le, value, Bool.and_eq_true, decide_eq_true_eq]
    exact ⟨low, high⟩
  have added : (UInt8.ofNat (n + 128)).toNat - 128 = n := by rw [value, Nat.add_sub_cancel]
  refine (if_pos due).trans ?_
  generalize (UInt8.ofNat (n + 128)).toNat - 128 = m at added
  subst added
  rfl

end Inside

/-! ## Whole characters -/

theorem unitsFrom_cons {phase next : Phase} {b : UInt8} {out : List (Option Char)}
    (fed : feed phase b = (out, next)) (bs : List UInt8) :
    unitsFrom phase (b :: bs) = out ++ unitsFrom next bs := by
  rw [unitsFrom, fed]

/-- A character is read back, whatever comes after it. -/
theorem unitsFrom_encodeChar (c : Char) (rest : List UInt8) :
    unitsFrom .fresh (String.utf8EncodeChar c ++ rest) = some c :: unitsFrom .fresh rest := by
  have whole : Char.ofNat c.val.toNat = c := Char.ofNat_toNat c
  have valid : c.val.toNat < 55296 ∨ 57343 < c.val.toNat ∧ c.val.toNat < 1114112 := c.valid
  unfold String.utf8EncodeChar
  generalize c.val.toNat = v at whole valid
  subst whole
  dsimp only
  split
  · next one =>
    rw [List.singleton_append, unitsFrom_cons (feed_one (by omega))]
    rfl
  split
  · next two =>
    have value : v / 64 % 32 * 64 + v % 64 = v := by omega
    rw [List.cons_append, List.singleton_append]
    rw [unitsFrom_cons (feed_two _ (by omega) (by omega))]
    rw [unitsFrom_cons (feed_inside (by omega) (by simp) (by simp; omega) 1), value]
    rfl
  split
  · next three =>
    have value : (v / 4096 % 16 * 64 + v / 64 % 64) * 64 + v % 64 = v := by omega
    rw [List.cons_append, List.cons_append, List.singleton_append]
    rw [unitsFrom_cons (feed_three _ (by omega))]
    rw [unitsFrom_cons (feed_inside (by omega) (by split <;> simp; omega)
      (by split <;> simp <;> omega) 2)]
    rw [unitsFrom_cons (feed_inside (by omega) (by simp) (by simp; omega) 1), value]
    rfl
  · next four =>
    have value : ((v / 262144 % 8 * 64 + v / 4096 % 64) * 64 + v / 64 % 64) * 64 + v % 64 = v := by
      omega
    rw [List.cons_append, List.cons_append, List.cons_append, List.singleton_append]
    rw [unitsFrom_cons (feed_four _ (by omega))]
    rw [unitsFrom_cons (feed_inside (by omega) (by split <;> simp; omega)
      (by split <;> simp <;> omega) 3)]
    rw [unitsFrom_cons (feed_inside (by omega) (by simp) (by simp; omega) 2)]
    rw [unitsFrom_cons (feed_inside (by omega) (by simp) (by simp; omega) 1), value]
    rfl

/-! ## Texts -/

theorem encodeChars_append (cs ds : List Char) :
    encodeChars (cs ++ ds) = encodeChars cs ++ encodeChars ds := List.flatMap_append

/-- A text is read back, whatever comes after it. -/
theorem unitsFrom_encodeChars (cs : List Char) (rest : List UInt8) :
    unitsFrom .fresh (encodeChars cs ++ rest) = cs.map some ++ unitsFrom .fresh rest := by
  induction cs with
  | nil => rfl
  | cons c cs ih =>
    rw [encodeChars, List.flatMap_cons, List.append_assoc, unitsFrom_encodeChar]
    exact congrArg (some c :: ·) ih

/-- **UTF-8 can be read back.** -/
theorem units_encodeChars (cs : List Char) : units (encodeChars cs) = cs.map some := by
  have whole := unitsFrom_encodeChars cs []
  rwa [List.append_nil, unitsFrom, List.append_nil] at whole

theorem decodeLossy_encode (s : String) : decodeLossy (encode s) = s := by
  rw [decodeLossy, decodeCharsLossy, encode, units_encodeChars, List.map_map]
  exact (congrArg String.ofList (List.map_id _)).trans String.ofList_toList

/-! ## ASCII -/

/-- An ASCII character is the byte of its value. -/
theorem encodeChar_ascii {c : Char} (ascii : c.toNat < 128) :
    String.utf8EncodeChar c = [UInt8.ofNat c.toNat] := by
  rw [String.utf8EncodeChar]
  exact if_pos (Nat.le_of_lt_succ ascii)

end ApprovalDesk.Text.Utf8
