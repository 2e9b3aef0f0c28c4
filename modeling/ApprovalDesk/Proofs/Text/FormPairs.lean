import ApprovalDesk.Proofs.Text.Percent
import ApprovalDesk.Text.FormPairs

/-!
# Reading back pairs

Names and values in the form encoding are read back character by character, whatever they are: a blank
is the only character that becomes `+`, a percent sign is always encoded, and neither `&` nor `=` is
left over to be taken for a separator. Pairs put after a query are therefore read after the pairs that
the query has itself, and change none of these.
-/

namespace ApprovalDesk.Text.FormPairs

set_option autoImplicit false

/-! ## Names and values -/

/-- The byte that a byte stands for before groups are decoded: a blank for `+`. -/
def unplus (b : UInt8) : UInt8 := if b = 0x2B then 0x20 else b

/-- A byte that neither separates pairs nor a name from its value. -/
abbrev Inner (b : UInt8) : Prop := b ≠ 0x26 ∧ b ≠ 0x3D

theorem plain_ascii : ∀ n < 128, isPlain (Char.ofNat n) = true →
    UInt8.ofNat n ≠ 0x25 ∧ unplus (UInt8.ofNat n) = UInt8.ofNat n ∧ Inner (UInt8.ofNat n) := by
  decide

theorem digitByte_inner : ∀ n < 16, unplus (Percent.digitByte n) = Percent.digitByte n ∧
    Inner (Percent.digitByte n) := by
  decide

/-- How a character is written: a blank as `+`, some characters as they are, all others in groups. -/
inductive Written (c : Char) : Prop where
  | blank (blank : c = ' ') (written : encodeChar c = ['+'])
  | plain (ascii : c.toNat < 128) (plain : isPlain c = true) (written : encodeChar c = [c])
  | groups (written : encodeChar c = (String.utf8EncodeChar c).flatMap Percent.encodeByte)

theorem written (c : Char) : Written c := by
  by_cases blank : c = ' '
  · exact .blank blank (by rw [encodeChar, if_pos blank])
  by_cases plain : c.toNat < 0x80 && isPlain c
  · obtain ⟨ascii, keeps⟩ := Bool.and_eq_true_iff.1 plain
    refine .plain (of_decide_eq_true ascii) keeps ?_
    rw [encodeChar, if_neg blank, Percent.encodeChar, if_pos plain]
  · exact .groups (by rw [encodeChar, if_neg blank, Percent.encodeChar, if_neg plain])

theorem unplus_group (b : UInt8) :
    (Utf8.encodeChars (Percent.encodeByte b)).map unplus = Utf8.encodeChars (Percent.encodeByte b) := by
  refine (List.map_congr_left fun x member => ?_).trans (List.map_id _)
  rcases Percent.mem_group member with rfl | ⟨n, digit, rfl⟩
  · rfl
  · exact (digitByte_inner n digit).1

/-- Bytes in groups are decoded, whatever comes after them. -/
theorem decode_groups (bs rest : List UInt8) :
    Percent.decode ((Utf8.encodeChars (bs.flatMap Percent.encodeByte)).map unplus ++ rest) =
      bs ++ Percent.decode rest := by
  induction bs with
  | nil => rfl
  | cons b bs ih =>
    rw [List.flatMap_cons, Utf8.encodeChars_append, List.map_append, unplus_group, List.append_assoc,
      Percent.decode_encodeByte, ih, List.cons_append]

/-- A character that was written is decoded to its bytes, whatever comes after it. -/
theorem decode_encodeChar (c : Char) (rest : List UInt8) :
    Percent.decode ((Utf8.encodeChars (encodeChar c)).map unplus ++ rest) =
      String.utf8EncodeChar c ++ Percent.decode rest := by
  cases written c with
  | blank blank written =>
    rw [written, blank]
    exact Percent.decode_cons_of_ne (by decide) rest
  | plain ascii plain written =>
    have same : Char.ofNat c.toNat = c := Char.ofNat_toNat c
    obtain ⟨noSign, kept, -⟩ := plain_ascii c.toNat ascii (same.symm ▸ plain)
    have byte : Utf8.encodeChars [c] = [UInt8.ofNat c.toNat] := by
      rw [Utf8.encodeChars, List.flatMap_singleton, Utf8.encodeChar_ascii ascii]
    rw [written, byte, List.map_singleton, kept, List.singleton_append,
      Percent.decode_cons_of_ne noSign, Utf8.encodeChar_ascii ascii, List.singleton_append]
  | groups written => rw [written, decode_groups]

theorem decode_encodeChars (cs : List Char) (rest : List UInt8) :
    Percent.decode ((Utf8.encodeChars (cs.flatMap encodeChar)).map unplus ++ rest) =
      Utf8.encodeChars cs ++ Percent.decode rest := by
  induction cs with
  | nil => rfl
  | cons c cs ih =>
    rw [List.flatMap_cons, Utf8.encodeChars_append, List.map_append, List.append_assoc,
      decode_encodeChar, ih, ← List.append_assoc]
    rfl

/-- **A name or a value is read back**, whatever characters it has. -/
theorem decodeText_encodeText (s : String) : decodeText (Utf8.encodeChars (encodeText s)) = s := by
  have decoded : Percent.decode ((Utf8.encodeChars (encodeText s)).map unplus) = Utf8.encode s := by
    have whole := decode_encodeChars s.toList []
    rwa [List.append_nil, show Percent.decode [] = [] from rfl, List.append_nil] at whole
  exact (congrArg Utf8.decodeLossy decoded).trans (Utf8.decodeLossy_encode s)

/-- No separator is left over in a character that was written. -/
theorem inner_of_mem_encodeChar {c : Char} {b : UInt8} (member : b ∈ Utf8.encodeChars (encodeChar c)) :
    Inner b := by
  cases written c with
  | blank _ written =>
    rw [written] at member
    rw [List.mem_singleton.1 member]
    decide
  | plain ascii plain written =>
    have same : Char.ofNat c.toNat = c := Char.ofNat_toNat c
    obtain ⟨-, -, inner⟩ := plain_ascii c.toNat ascii (same.symm ▸ plain)
    rw [written, Utf8.encodeChars, List.flatMap_singleton, Utf8.encodeChar_ascii ascii] at member
    rw [List.mem_singleton.1 member]
    exact inner
  | groups written =>
    rw [written, Utf8.encodeChars, List.flatMap_assoc] at member
    obtain ⟨byte, -, member⟩ := List.mem_flatMap.1 member
    rcases Percent.mem_group member with rfl | ⟨n, digit, rfl⟩
    · decide
    · exact (digitByte_inner n digit).2

theorem inner_of_mem_encodeText {s : String} {b : UInt8}
    (member : b ∈ Utf8.encodeChars (encodeText s)) : Inner b := by
  rw [encodeText, Utf8.encodeChars, List.flatMap_assoc] at member
  obtain ⟨c, -, member⟩ := List.mem_flatMap.1 member
  exact inner_of_mem_encodeChar member

/-! ## Pairs -/

theorem splitAll_ne_nil (sep : UInt8) (bs : List UInt8) : splitAll sep bs ≠ [] := by
  cases bs with
  | nil => exact List.cons_ne_nil _ _
  | cons b bs =>
    rw [splitAll]
    split
    · exact List.cons_ne_nil _ _
    · split <;> exact List.cons_ne_nil _ _

/-- Bytes without a separator are one run. -/
theorem splitAll_of_not_mem {sep : UInt8} {run : List UInt8} (none : sep ∉ run) :
    splitAll sep run = [run] := by
  induction run with
  | nil => rfl
  | cons b run ih =>
    have other : b ≠ sep := fun same => none (same ▸ List.mem_cons_self)
    rw [splitAll, if_neg other, ih fun member => none (List.mem_cons_of_mem b member)]

/-- What comes after a separator is apart from what comes before it. -/
theorem splitAll_append (sep : UInt8) (bs run : List UInt8) :
    splitAll sep (bs ++ sep :: run) = splitAll sep bs ++ splitAll sep run := by
  induction bs with
  | nil => exact if_pos rfl
  | cons b bs ih =>
    rw [List.cons_append, splitAll, splitAll, ih]
    split
    · rfl
    · cases rest : splitAll sep bs with
      | nil => exact absurd rest (splitAll_ne_nil sep bs)
      | cons first rest => rfl

theorem decode_append (bs run : List UInt8) : decode (bs ++ 0x26 :: run) = decode bs ++ decode run := by
  rw [decode, splitAll_append, List.filter_append, List.map_append]
  rfl

/-- Bytes without a separator are one pair. -/
theorem decode_of_not_mem {run : List UInt8} (some : run ≠ []) (none : 0x26 ∉ run) :
    decode run = [decodePair run] := by
  rw [decode, splitAll_of_not_mem none]
  cases run with
  | nil => exact absurd rfl some
  | cons b run => rfl

/-- A pair is parted at its first `=`. -/
theorem decodePair_append {name : List UInt8} (none : 0x3D ∉ name) (value : List UInt8) :
    decodePair (name ++ 0x3D :: value) = (decodeText name, decodeText value) := by
  have inName : ∀ b ∈ name, (b != 0x3D) = true := fun b member =>
    bne_iff_ne.2 fun sign => none (sign ▸ member)
  rw [decodePair, List.takeWhile_append_of_pos inName, List.dropWhile_append_of_pos inName]
  simp

/-- A pair that was written is read back. -/
theorem decode_encodePair (p : String × String) : decode (Utf8.encodeChars (encodePair p)) = [p] := by
  obtain ⟨name, value⟩ := p
  have bytes : Utf8.encodeChars (encodePair (name, value)) =
      Utf8.encodeChars (encodeText name) ++ 0x3D :: Utf8.encodeChars (encodeText value) := by
    rw [encodePair, Utf8.encodeChars_append]
    rfl
  have oneRun : (0x26 : UInt8) ∉ Utf8.encodeChars (encodePair (name, value)) := by
    rw [bytes, List.mem_append, List.mem_cons]
    rintro (inName | sign | inValue)
    · exact (inner_of_mem_encodeText inName).1 rfl
    · cases sign
    · exact (inner_of_mem_encodeText inValue).1 rfl
  have noSign : (0x3D : UInt8) ∉ Utf8.encodeChars (encodeText name) := fun member =>
    (inner_of_mem_encodeText member).2 rfl
  rw [decode_of_not_mem (by simp [bytes]) oneRun, bytes, decodePair_append noSign, decodeText_encodeText,
    decodeText_encodeText]

/-- A pair put after a query is read after the pairs of the query. -/
theorem decode_encodeChars_append (query : List Char) (p : String × String) :
    decode (Utf8.encodeChars (append query p)) = decode (Utf8.encodeChars query) ++ [p] := by
  rw [append]
  split
  · next empty =>
    rw [List.isEmpty_iff.1 empty, decode_encodePair]
    rfl
  · rw [Utf8.encodeChars_append, ← decode_encodePair p, ← decode_append]
    rfl

/-- **Pairs put after a query are read after its own pairs**, and these are as they were. -/
theorem decode_foldl_append (pairs : List (String × String)) (query : List Char) :
    decode (Utf8.encodeChars (pairs.foldl append query)) = decode (Utf8.encodeChars query) ++ pairs := by
  induction pairs generalizing query with
  | nil => rw [List.foldl_nil, List.append_nil]
  | cons p pairs ih =>
    rw [List.foldl_cons, ih, decode_encodeChars_append, List.append_assoc, List.singleton_append]

/-! ## Characters of a query -/

/-- A character that pairs are written with. -/
def isUsed (c : Char) : Bool := isPlain c || c == '+' || c == '%' || c == '&' || c == '='

theorem used_of_mem_encodeText {s : String} {c : Char} (member : c ∈ encodeText s) : isUsed c = true := by
  have digits : ∀ n < 16, isUsed (Hex.upperDigit n) = true := by decide
  obtain ⟨d, -, inside⟩ := List.mem_flatMap.1 member
  cases written d with
  | blank _ written =>
    rw [written] at inside
    rw [List.mem_singleton.1 inside]
    rfl
  | plain _ plain written =>
    rw [written] at inside
    rw [List.mem_singleton.1 inside, isUsed, plain]
    rfl
  | groups written =>
    rw [written] at inside
    obtain ⟨b, -, group⟩ := List.mem_flatMap.1 inside
    have bound : b.toNat < 256 := b.toNat_lt
    rcases List.mem_cons.1 group with rfl | digit
    · rfl
    rcases List.mem_cons.1 digit with rfl | low
    · exact digits _ (by omega)
    · rw [List.mem_singleton.1 low]
      exact digits _ (by omega)

/-- Pairs bring no other characters into a query. -/
theorem used_of_mem_foldl_append {pairs : List (String × String)} {query : List Char} {c : Char}
    (member : c ∈ pairs.foldl append query) : c ∈ query ∨ isUsed c = true := by
  induction pairs generalizing query with
  | nil => exact Or.inl member
  | cons p pairs ih =>
    have pair : ∀ d ∈ encodePair p, isUsed d = true := by
      intro d inside
      rcases List.mem_append.1 inside with inName | inside
      · exact used_of_mem_encodeText inName
      rcases List.mem_cons.1 inside with rfl | inValue
      · rfl
      · exact used_of_mem_encodeText inValue
    rcases ih member with appended | used
    · rw [append] at appended
      split at appended
      · exact Or.inr (pair c appended)
      rcases List.mem_append.1 appended with before | after
      · exact Or.inl before
      rcases List.mem_cons.1 after with rfl | after
      · exact Or.inr rfl
      · exact Or.inr (pair c after)
    · exact Or.inr used

end ApprovalDesk.Text.FormPairs
