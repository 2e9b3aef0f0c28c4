import ApprovalDesk.Text.Composed
import ApprovalDesk.Text.Utf8
import ApprovalDesk.Url.Address
import ApprovalDesk.Url.Domain.Direction
import ApprovalDesk.Url.Domain.Joiner
import ApprovalDesk.Url.Domain.Mapping
import ApprovalDesk.Url.Punycode

/-!
# Domain names

A domain name is written in ASCII (UTS #46). Its characters are replaced by those that they count as;
a label with other characters than ASCII is written as `xn--` with its Punycode, and a label that is
written so has to stand for one that could be.
-/

namespace ApprovalDesk.Url

set_option autoImplicit false

open ApprovalDesk.Text

/-- An ASCII character that no domain name may have. -/
def isForbiddenInDomain (c : Char) : Bool :=
  c.toNat ≤ 0x20 || c.toNat == 0x7F || "%#/:<>?@[\\]^|".toList.contains c

def isAscii (c : Char) : Bool := c.toNat < 0x80

/-- The beginning of a label in Punycode. -/
def punycodeMark : List Char := "xn--".toList

def isPunycode (label : List Char) : Bool := punycodeMark.isPrefixOf label

/-- The characters as they count in a domain name, if all of them may stand there. -/
def replaceChars? (cs : List Char) : Option (List Char) :=
  (cs.mapM fun c =>
    match Fate.of c with
    | .kept => some [c]
    | .replaced others => some others
    | .refused => none).map List.flatten

/-- The most characters that the Punycode of a label may have. -/
def maxPunycode : Nat := 2000

/-- The most characters of a label that are put into Punycode. -/
def maxLabel : Nat := 1000

/-- What the Punycode of a label says, which has to be in the form that a label is put into. -/
def decodeLabel? (punycode : List Char) : Option (List Char) :=
  if maxPunycode < punycode.length then none
  else (Punycode.decode? punycode).filter fun cs =>
    !cs.all isAscii && cs.all (fun c => Fate.of c == .kept && !isForbiddenInDomain c) &&
      Composed.compose cs == cs

/-- The label that a label stands for: itself, or what its Punycode says. -/
def meaning? (label : List Char) : Option (List Char) :=
  (if isPunycode label then decodeLabel? (label.drop punycodeMark.length) else some label).filter
    fun cs => cs.all isAscii || cs.length ≤ maxLabel

/-- A label in ASCII. -/
def labelToAscii (label : List Char) : List Char :=
  if label.all isAscii then label else punycodeMark ++ Punycode.encode label

/-- Labels with points between them. -/
def joinLabels (labels : List (List Char)) : List Char := ['.'].intercalate labels

/-- A name whose characters only have to be in lower case. -/
def isPlain (cs : List Char) : Bool :=
  cs.all isAscii && !(splitAt (· == '.') (cs.map Char.toLower)).any isPunycode

/-- The ASCII form of a domain name with characters of any kind. -/
def internationalToAscii? (cs : List Char) : Option (List Char) := do
  let cs := Composed.compose (← replaceChars? cs)
  if cs.any isForbiddenInDomain then failure
  let labels := splitAt (· == '.') cs
  let meanings ← labels.mapM meaning?
  if meanings.all Joiner.isOrderly && Direction.areSteady meanings then
    return joinLabels (labels.map labelToAscii)
  else failure

/-- The ASCII form of a domain name. -/
def domainToAscii? (bytes : List UInt8) : Option (List Char) :=
  (Utf8.decodeChars? bytes).bind fun cs =>
    if isPlain cs then if cs.any isForbiddenInDomain then none else some (cs.map Char.toLower)
    else internationalToAscii? cs

end ApprovalDesk.Url
