/-!
# HTML from lines

A document is a list of lines, and a line is a list of pieces: markup, which is written as it is, and
text, in which the five characters with a meaning of their own are escaped. Text therefore never adds
to the markup around it.
-/

namespace ApprovalDesk.Html

set_option autoImplicit false

/-- A character of a text. -/
def escapeChar : Char → List Char
  | '&' => "&amp;".toList
  | '<' => "&lt;".toList
  | '>' => "&gt;".toList
  | '"' => "&quot;".toList
  | '\'' => "&#x27;".toList
  | c => [c]

/-- A text in which no character has a meaning of its own. -/
def escape (s : String) : List Char := s.toList.flatMap escapeChar

/-- A piece of a document. -/
inductive Piece where
  | markup (s : String)
  | text (s : String)
  deriving DecidableEq, Repr

instance : Coe String Piece := ⟨.markup⟩

/-- A line of a document. -/
abbrev Line := List Piece

def Piece.chars : Piece → List Char
  | .markup s => s.toList
  | .text s => escape s

def lineChars (l : Line) : List Char := l.flatMap Piece.chars

/-- The lines with line ends between them. -/
def chars : List Line → List Char
  | [] => []
  | [l] => lineChars l
  | l :: m :: rest => lineChars l ++ '\n' :: chars (m :: rest)

/-- A document as text. -/
def write (lines : List Line) : String := String.ofList (chars lines)

/-- Lines that are only there if a condition holds, after a line that is there in any case. -/
def linesIf (condition : Bool) (before : Line) (lines : List Line) : List Line :=
  before :: if condition then lines ++ [before] else []

/-- A rule of a style sheet. -/
def rule (selector declarations : String) : Line :=
  ["    " ++ selector ++ " \x7b " ++ declarations ++ " \x7d"]

/-- A whole document: the opening tag, what the head holds besides the style sheet, the rules of the
style sheet, and the body. -/
def document (opening : String) (head rules body : List Line) : List Line :=
  List.flatten [
    [["<!DOCTYPE html>"], [opening], ["<head>"], ["  <meta charset=\"UTF-8\">"]],
    head,
    [["  <style>"]],
    rules,
    [["  </style>"], ["</head>"], ["<body>"]],
    body,
    [["</body>"], ["</html>"]]]

end ApprovalDesk.Html
