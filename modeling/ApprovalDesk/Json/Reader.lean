import ApprovalDesk.Json.Basic
import ApprovalDesk.Text.Binary64
import ApprovalDesk.Text.Hex
import ApprovalDesk.Text.Utf8

/-!
# Reading JSON text

The text is given in units: characters, and `none` for bytes that belong to no character. It is cut
into lexemes, and a stack of open arrays and objects puts these together. A string with such bytes or
with half a surrogate pair is well formed but illegible, and so is a number that is too great; a
reader that has no use for it may pass over it. `parse?` reads a whole text of legible values.
-/

namespace ApprovalDesk.Json

set_option autoImplicit false

open ApprovalDesk.Text

/-! ## Lexemes -/

/-- The smallest meaningful pieces of a text. -/
inductive Lexeme where
  | openBrace
  | closeBrace
  | openBracket
  | closeBracket
  | colon
  | comma
  | null
  | bool (value : Bool)
  /-- A string; `none` if it is illegible. -/
  | str (value : Option String)
  /-- A number; `none` if it is out of range. -/
  | num (value : Option Number)
  /-- Anything else. -/
  | junk
  deriving DecidableEq, Repr

/-- A piece of a string: a character, a UTF-16 unit given by its number, or bytes without meaning. -/
inductive Piece where
  | char (c : Char)
  | unit (n : Nat)
  | stray
  deriving DecidableEq, Repr

/-- The character that a letter after a backslash stands for. -/
def escapeMeaning? : Char → Option Char
  | '"' => some '"'
  | '\\' => some '\\'
  | '/' => some '/'
  | 'b' => some '\x08'
  | 'f' => some '\x0C'
  | 'n' => some '\n'
  | 'r' => some '\r'
  | 't' => some '\t'
  | _ => none

/-- The pieces of the inside of a string, or nothing if an escape is malformed. -/
def pieces : List (Option Char) → Option (List Piece)
  | [] => some []
  | some '\\' :: some 'u' :: some a :: some b :: some c :: some d :: rest =>
    match Hex.number? [a, b, c, d], pieces rest with
    | some n, some ps => some (.unit n :: ps)
    | _, _ => none
  | some '\\' :: some e :: rest =>
    match escapeMeaning? e, pieces rest with
    | some c, some ps => some (.char c :: ps)
    | _, _ => none
  | some '\\' :: _ => none
  | some c :: rest => (pieces rest).map (.char c :: ·)
  | none :: rest => (pieces rest).map (.stray :: ·)

def isHighSurrogate (n : Nat) : Bool := 0xD800 ≤ n && n ≤ 0xDBFF

def isLowSurrogate (n : Nat) : Bool := 0xDC00 ≤ n && n ≤ 0xDFFF

/-- The characters of the pieces, with surrogate pairs joined; nothing if a piece is illegible. -/
def joinPieces : List Piece → Option (List Char)
  | [] => some []
  | .char c :: rest => (joinPieces rest).map (c :: ·)
  | .stray :: _ => none
  | .unit high :: .unit low :: rest =>
    if isHighSurrogate high then
      if isLowSurrogate low then
        (joinPieces rest).map (Char.ofNat (0x10000 + (high - 0xD800) * 0x400 + (low - 0xDC00)) :: ·)
      else none
    else if isLowSurrogate high then none
    else (joinPieces (.unit low :: rest)).map (Char.ofNat high :: ·)
  | .unit n :: rest =>
    if isHighSurrogate n || isLowSurrogate n then none
    else (joinPieces rest).map (Char.ofNat n :: ·)

/-- The lexeme of a string from its inside. -/
def stringLexeme (inside : List (Option Char)) : Lexeme :=
  match pieces inside with
  | none => .junk
  | some ps => .str ((joinPieces ps).map String.ofList)

/-- A number as it is written: sign, integer digits, fraction digits and exponent. -/
structure Numeral where
  negative : Bool
  whole : List Char
  fraction : Option (List Char)
  exponent : Option Int
  deriving DecidableEq, Repr

/-- A word as a numeral. -/
def numeral? (word : List Char) : Option Numeral :=
  let (negative, word) := match word with
    | '-' :: rest => (true, rest)
    | _ => (false, word)
  let whole := word.takeWhile Decimal.isDigit
  let word := word.drop whole.length
  if whole.isEmpty || (whole.head? == some '0' && 1 < whole.length) then none
  else
    let (fraction, word) := match word with
      | '.' :: rest => (some (rest.takeWhile Decimal.isDigit), rest.dropWhile Decimal.isDigit)
      | _ => (none, word)
    if fraction == some [] then none
    else
      let made (exponent : Option Int) : Option Numeral :=
        some { negative, whole, fraction, exponent }
      match word with
      | [] => made none
      | e :: rest =>
        if e = 'e' ∨ e = 'E' then
          let (minus, ds) := match rest with
            | '-' :: ds => (true, ds)
            | '+' :: ds => (false, ds)
            | ds => (false, ds)
          (Decimal.number? ds).bind fun n => made (some (if minus then -(n : Int) else n))
        else none

/-- The digits of a significand as far as they fit 64 bits, and the number of digits left out. -/
def significand : Nat → List Char → Nat × Nat
  | n, [] => (n, 0)
  | n, c :: rest =>
    let m := 10 * n + Decimal.value c
    if m < 0x10000000000000000 then significand m rest else (n, rest.length + 1)

/-- The value of a numeral: an integer if it is written as one and fits 64 bits, else the
floating-point number of its leading digits; nothing if that is infinite. -/
def Numeral.value? (x : Numeral) : Option Number :=
  let fraction := x.fraction.getD []
  let n := Decimal.toNat x.whole
  if x.fraction.isNone && x.exponent.isNone &&
      (if x.negative then 0 < n && n ≤ 0x8000000000000000 else n < 0x10000000000000000)
  then some (.int (if x.negative then -(n : Int) else n))
  else
    let (sig, dropped) := significand 0 (x.whole ++ fraction)
    let scale := (dropped : Int) - fraction.length + x.exponent.getD 0
    (Binary64.scaled sig scale).map fun f =>
      .real (UInt64.ofNat (f.toBits + if x.negative then 0x8000000000000000 else 0))

/-- The lexeme of a word. -/
def wordLexeme (word : List Char) : Lexeme :=
  if word = ['n', 'u', 'l', 'l'] then .null
  else if word = ['t', 'r', 'u', 'e'] then .bool true
  else if word = ['f', 'a', 'l', 's', 'e'] then .bool false
  else match numeral? word with
    | some x => .num x.value?
    | none => .junk

/-- Where the cutting stands; what has been read of a lexeme is kept in reverse. -/
inductive Cut where
  | between
  | inString (read : List (Option Char))
  /-- Inside a string, after a backslash. -/
  | escaped (read : List (Option Char))
  | inWord (read : List Char)
  deriving DecidableEq, Repr

/-- A character of a literal or a number. -/
def isWordChar (c : Char) : Bool := c.isAlphanum || c == '-' || c == '+' || c == '.'

/-- A unit between two lexemes: the lexemes it makes and where the cutting then stands. -/
def startLexeme (u : Option Char) : List Lexeme × Cut :=
  match u with
  | some '{' => ([.openBrace], .between)
  | some '}' => ([.closeBrace], .between)
  | some '[' => ([.openBracket], .between)
  | some ']' => ([.closeBracket], .between)
  | some ':' => ([.colon], .between)
  | some ',' => ([.comma], .between)
  | some '"' => ([], .inString [])
  | some c =>
    if c = ' ' ∨ c = '\t' ∨ c = '\n' ∨ c = '\r' then ([], .between)
    else if isWordChar c then ([], .inWord [c])
    else ([.junk], .between)
  | none => ([.junk], .between)

/-- One unit: the lexemes it ends and where the cutting then stands. -/
def cutStep (cut : Cut) (u : Option Char) : List Lexeme × Cut :=
  match cut with
  | .between => startLexeme u
  | .inString read =>
    match u with
    | some '"' => ([stringLexeme read.reverse], .between)
    | some '\\' => ([], .escaped (u :: read))
    | some c => if c.toNat < 0x20 then ([.junk], .between) else ([], .inString (u :: read))
    | none => ([], .inString (u :: read))
  | .escaped read => ([], .inString (u :: read))
  | .inWord read =>
    match u with
    | some c =>
      if isWordChar c then ([], .inWord (c :: read))
      else
        let (out, next) := startLexeme u
        (wordLexeme read.reverse :: out, next)
    | none => ([wordLexeme read.reverse, .junk], .between)

/-- The lexemes from a given standing of the cutting. A string without end is junk. -/
def lexemesFrom (cut : Cut) : List (Option Char) → List Lexeme
  | [] => match cut with
    | .between => []
    | .inString _ | .escaped _ => [.junk]
    | .inWord read => [wordLexeme read.reverse]
  | u :: us =>
    let (out, next) := cutStep cut u
    out ++ lexemesFrom next us

/-- The lexemes of a text. -/
def lexemes (us : List (Option Char)) : List Lexeme := lexemesFrom .between us

/-! ## Values from lexemes -/

/-- What stands in a text: values of which strings and numbers may be illegible. -/
inductive Node where
  | leaf (value : Option Json)
  | arr (items : List Node)
  | obj (members : List (Option String × Node))

namespace Node

mutual

/-- The value, if all of it is legible. -/
def value? : Node → Option Json
  | .leaf v => v
  | .arr items => (values? items).map .arr
  | .obj members => (members? members).map .obj

def values? : List Node → Option (List Json)
  | [] => some []
  | n :: rest => match n.value?, values? rest with
    | some v, some vs => some (v :: vs)
    | _, _ => none

def members? : List (Option String × Node) → Option (List (String × Json))
  | [] => some []
  | (name, n) :: rest => match name, n.value?, members? rest with
    | some name, some v, some ms => some ((name, v) :: ms)
    | _, _, _ => none

end

/-- The value for a reader that looks only at the members with the given names: all names of an
object must be legible, but of the values only those that are looked at. -/
def valueFor? (names : List String) : Node → Option Json
  | .obj members =>
    if members.any (·.1.isNone) then none
    else (members? (members.filter fun m => names.any fun n => m.1 == some n)).map .obj
  | n => n.value?

end Node

/-- An array or object that is still open, its contents in reverse. -/
inductive Frame where
  | arr (items : List Node)
  /-- With the name of the member whose value is due. -/
  | obj (members : List (Option String × Node)) (name : Option String)

/-- What may come next. -/
inductive Due where
  | value
  /-- A value or the end of an array. -/
  | valueOrClose
  | name
  /-- A name or the end of an object. -/
  | nameOrClose
  | colon (name : Option String)
  /-- A comma or the end of the innermost frame. -/
  | commaOrClose
  deriving DecidableEq, Repr

/-- The state of putting values together. -/
inductive Build where
  /-- Frames are open, the innermost first, and `due` may come next. -/
  | openFrames (frames : List Frame) (due : Due)
  /-- A whole value has been read. -/
  | complete (node : Node)

/-- Puts a value into the innermost frame. -/
def place (n : Node) : List Frame → Build
  | [] => .complete n
  | .arr items :: frames => .openFrames (.arr (n :: items) :: frames) .commaOrClose
  | .obj members name :: frames =>
    .openFrames (.obj ((name, n) :: members) none :: frames) .commaOrClose

/-- Opens an array or object, or places a leaf. -/
def beginValue (frames : List Frame) : Lexeme → Option Build
  | .openBrace => some (.openFrames (.obj [] none :: frames) .nameOrClose)
  | .openBracket => some (.openFrames (.arr [] :: frames) .valueOrClose)
  | .null => some (place (.leaf (some .null)) frames)
  | .bool b => some (place (.leaf (some (.bool b))) frames)
  | .str s => some (place (.leaf (s.map .str)) frames)
  | .num n => some (place (.leaf (n.map .num)) frames)
  | _ => none

/-- One lexeme, refused if it is not due. -/
def buildStep (frames : List Frame) (due : Due) (x : Lexeme) : Option Build :=
  match due with
  | .value => beginValue frames x
  | .valueOrClose =>
    match x, frames with
    | .closeBracket, .arr items :: outer => some (place (.arr items.reverse) outer)
    | _, _ => beginValue frames x
  | .name =>
    match x with
    | .str s => some (.openFrames frames (.colon s))
    | _ => none
  | .nameOrClose =>
    match x, frames with
    | .closeBrace, .obj members _ :: outer => some (place (.obj members.reverse) outer)
    | .str s, _ => some (.openFrames frames (.colon s))
    | _, _ => none
  | .colon name =>
    match x, frames with
    | .colon, .obj members _ :: outer => some (.openFrames (.obj members name :: outer) .value)
    | _, _ => none
  | .commaOrClose =>
    match x, frames with
    | .comma, .arr items :: outer => some (.openFrames (.arr items :: outer) .value)
    | .comma, .obj members _ :: outer => some (.openFrames (.obj members none :: outer) .name)
    | .closeBracket, .arr items :: outer => some (place (.arr items.reverse) outer)
    | .closeBrace, .obj members _ :: outer => some (place (.obj members.reverse) outer)
    | _, _ => none

/-- Reads lexemes up to the end of the first whole value. -/
def build (b : Build) (xs : List Lexeme) : Option (Node × List Lexeme) :=
  match b, xs with
  | .complete n, rest => some (n, rest)
  | .openFrames _ _, [] => none
  | .openFrames frames due, x :: rest => (buildStep frames due x).bind (build · rest)

/-- The first value of a text; what follows it is not looked at. -/
def readFirst (us : List (Option Char)) : Option Node :=
  (build (.openFrames [] .value) (lexemes us)).map (·.1)

/-- The only value of a text, all of it legible. -/
def parse? (s : String) : Option Json :=
  match build (.openFrames [] .value) (lexemes (s.toList.map some)) with
  | some (n, []) => n.value?
  | _ => none

end ApprovalDesk.Json
