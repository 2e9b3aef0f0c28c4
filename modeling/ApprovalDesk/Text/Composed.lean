import ApprovalDesk.Text.Composed.Table

/-!
# Composed text

Text in which marks stand in a fixed order and every character with a mark is written as one character
where there is one (Unicode normalization form C). Hangul syllables are composed by arithmetic.
-/

namespace ApprovalDesk.Text.Composed

set_option autoImplicit false

/-- The class of a character; 0 if it is not ordered among others. -/
def markClass (c : Char) : Nat :=
  ((markClasses.find? fun p => p.2.contains c).map (·.1)).getD 0

/-! ## Hangul -/

/-- The first syllable; for each of 19 leading and 21 vowel letters there are 28 in a row, one
without and 27 with a trailing letter. -/
def firstSyllable : Nat := 0xAC00

def firstLeading : Nat := 0x1100

def firstVowel : Nat := 0x1161

/-- The place before the first trailing letter. -/
def beforeTrailing : Nat := 0x11A7

/-- The syllable of a leading and a vowel letter, or of a syllable and a trailing letter. -/
def composeHangul? (a b : Nat) : Option Nat :=
  if firstLeading ≤ a ∧ a < firstLeading + 19 ∧ firstVowel ≤ b ∧ b < firstVowel + 21 then
    some (firstSyllable + ((a - firstLeading) * 21 + (b - firstVowel)) * 28)
  else if firstSyllable ≤ a ∧ a < firstSyllable + 11172 ∧ (a - firstSyllable) % 28 = 0 ∧
      beforeTrailing < b ∧ b < beforeTrailing + 28 then
    some (a + (b - beforeTrailing))
  else none

/-- The two parts of a syllable. -/
def hangulParts? (n : Nat) : Option (Nat × Nat) :=
  if firstSyllable ≤ n ∧ n < firstSyllable + 11172 then
    let i := n - firstSyllable
    if i % 28 = 0 then some (firstLeading + i / 588, firstVowel + i % 588 / 28)
    else some (n - i % 28, beforeTrailing + i % 28)
  else none

/-! ## Parts -/

/-- The character that stands for two. -/
def compose? (a b : Char) : Option Char :=
  match composeHangul? a.toNat b.toNat with
  | some n => some (Char.ofNat n)
  | none =>
    (composites.find? fun x => x.first == a.toNat && x.second == b.toNat).map fun x =>
      Char.ofNat x.whole

/-- The two that a character stands for. -/
def parts? (c : Char) : Option (Char × Char) :=
  match hangulParts? c.toNat with
  | some (a, b) => some (Char.ofNat a, Char.ofNat b)
  | none =>
    (composites.find? fun x => x.whole == c.toNat).map fun x =>
      (Char.ofNat x.first, Char.ofNat x.second)

/-- The most marks that a character has in it. -/
def maxDepth : Nat := 3

/-- A character in its parts, of which the first is taken apart again up to `depth` times. -/
def takeApart : Nat → Char → List Char
  | 0, c => [c]
  | depth + 1, c =>
    match parts? c with
    | some (a, b) => takeApart depth a ++ [b]
    | none => [c]

/-! ## The order of marks -/

/-- Puts a character before others, behind the marks among them that come before it. -/
def insertMark (c : Char) : List Char → List Char
  | [] => [c]
  | d :: ds =>
    if markClass d ≠ 0 ∧ markClass d < markClass c then d :: insertMark c ds else c :: d :: ds

/-- Puts the marks behind every character in order. -/
def orderMarks (cs : List Char) : List Char := cs.foldr insertMark []

/-! ## Composition -/

/-- How far composition has got: what is finished, the last character that others can be composed
with, and the marks that were not, from the last one on. -/
structure Progress where
  finished : List Char
  base : Option Char
  marks : List Char

namespace Progress

/-- Nothing yet. -/
def start : Progress := ⟨[], none, []⟩

/-- All that there is so far. -/
def text (p : Progress) : List Char := p.finished ++ p.base.toList ++ p.marks.reverse

/-- A character can be composed with the base: no mark stands between that it may not pass. -/
def reaches (p : Progress) (c : Char) : Bool :=
  match p.marks with
  | [] => true
  | m :: _ => markClass m < markClass c

/-- Goes on with a character. -/
def next (p : Progress) (c : Char) : Progress :=
  match p.base.bind fun b => if p.reaches c then compose? b c else none with
  | some whole => { p with base := some whole }
  | none =>
    if markClass c = 0 then { finished := p.text, base := some c, marks := [] }
    else { p with marks := c :: p.marks }

end Progress

/-- Composes characters. -/
def composeAll (cs : List Char) : List Char := (cs.foldl Progress.next .start).text

/-- The composed form of a text in which no character is a mere variant of another. -/
def compose (cs : List Char) : List Char :=
  composeAll (orderMarks (cs.flatMap (takeApart maxDepth)))

end ApprovalDesk.Text.Composed
