import ApprovalDesk.Url.Basic

/-!
# Paths of segments

A path begins with a slash. Its segments are resolved as they are read: `.` stands for the segment
itself and `..` takes the segment before it away, except a drive letter. In a `file` URL a drive letter
that comes first is written with a colon, and no empty segment comes first. Tabs and line ends do not
count, but one right after such a drive letter parts it from what follows in the segment.
-/

namespace ApprovalDesk.Url

set_option autoImplicit false

open ApprovalDesk.Text

/-- A tab or a line end, which does not count. -/
def isIgnored (c : Char) : Bool := c == '\t' || c == '\n' || c == '\r'

/-- The characters that count. -/
def counted (cs : List Char) : List Char := cs.filter (!isIgnored ·)

/-- A segment that stands for the directory itself. -/
def isDot (segment : List Char) : Bool :=
  let s := segment.map Char.toLower
  s == ['.'] || s == "%2e".toList

/-- A segment that takes the one before it away. -/
def isDotDot (segment : List Char) : Bool :=
  let s := segment.map Char.toLower
  s == "..".toList || s == "%2e.".toList || s == ".%2e".toList || s == "%2e%2e".toList

/-- A letter and a colon or a bar. -/
def isDrive : List Char → Bool
  | [letter, mark] => letter.isAlpha && (mark == ':' || mark == '|')
  | _ => false

/-- A drive letter that is a segment or stands before a backslash. -/
def holdsDrive (segment : List Char) : Bool :=
  isDrive (segment.take 2) && (segment.drop 2).head?.all (· == '\\')

/-- The drive letter that a segment begins with and what follows it, if a character that does not count
stands between the two. -/
def partedDrive? (segment : List Char) : Option (List Char × List Char) :=
  match counted segment with
  | letter :: ':' :: c :: rest =>
    if letter.isAlpha && ((segment.dropWhile (· != ':')).drop 1).head?.any isIgnored then
      some ([letter, ':'], c :: rest)
    else none
  | _ => none

/-- The segments that are complete, the last one first, and whether a drive letter came first. -/
structure Walk where
  done : List (List Char)
  drive : Bool
  deriving DecidableEq, Repr

namespace Walk

/-- The segments without the last one, which stays if it holds a drive letter. -/
def up : List (List Char) → List (List Char)
  | [] => []
  | last :: before => if holdsDrive last then last :: before else before

/-- Takes a segment in: the walk with the segments that are then complete, and the segment itself in
written form, or nothing if it is resolved. What a drive letter is parted from is not resolved. -/
def enter (file : Bool) (w : Walk) (segment : List Char) : Walk × Option (List Char) :=
  let first := file && w.done.isEmpty
  let counts := counted segment
  match (if first then partedDrive? segment else none) with
  | some (drive, rest) => ({ w with done := [drive] }, some (Percent.encode keepsPath rest))
  | none =>
    if isDotDot counts then ({ w with done := up w.done }, none)
    else if isDot counts then (w, none)
    else if first && isDrive counts then ({ w with drive := true }, some (counts.take 1 ++ [':']))
    else (w, some (Percent.encode keepsPath counts))

/-- Takes in a segment that a slash ends. -/
def pass (file : Bool) (w : Walk) (segment : List Char) : Walk :=
  match w.enter file segment with
  | (w, none) => w
  | (w, some written) => { w with done := written :: w.done }

/-- The text of the complete segments and the last one. -/
def text (w : Walk) (last : List Char) : List Char :=
  '/' :: w.done.reverse.flatMap (· ++ ['/']) ++ last

/-- Takes in segments up to the last one, which no slash ends. -/
def finish (file : Bool) (w : Walk) : List (List Char) → Walk × List Char
  | [] => (w, w.text [])
  | [last] =>
    let (w, written) := w.enter file last
    (w, w.text (written.getD []))
  | segment :: rest => finish file (w.pass file segment) rest

end Walk

/-- The path for the characters after its first slash, and whether a drive letter came first. -/
def resolvePath (scheme : List Char) (cs : List Char) : List Char × Bool :=
  let file := isFile scheme
  let slash (c : Char) : Bool := c == '/' || (isSpecial scheme && c == '\\')
  let (w, path) := Walk.finish file ⟨[], false⟩ (splitAt slash cs)
  (if file then '/' :: path.dropWhile (· == '/') else path, w.drive)

/-- The path for the characters after the authority, and whether a drive letter came first. -/
def pathAfterAuthority (scheme : List Char) (cs : List Char) : List Char × Bool :=
  match cs with
  | '/' :: rest => resolvePath scheme rest
  | '\\' :: rest => resolvePath scheme (if isSpecial scheme then rest else cs)
  | [] => if isSpecial scheme then resolvePath scheme [] else ([], false)
  | _ => resolvePath scheme cs

end ApprovalDesk.Url
