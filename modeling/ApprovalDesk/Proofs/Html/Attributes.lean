import ApprovalDesk.Proofs.Html.Escape

/-!
# The values of attributes

A document is read from its first character on, as a browser does: outside of tags only `<` matters,
inside a tag the words before `=` name attributes, and what follows up to the next `"` is the value. A
text among the pieces of a document never leaves the place in which it stands.
-/

namespace ApprovalDesk.Html

set_option autoImplicit false

/-- Where a reader of a document is. -/
inductive Place where
  /-- Outside of tags. -/
  | text
  /-- Inside a tag, after a part of a word. -/
  | tag (word : List Char)
  /-- Inside the value of an attribute, after a part of it. -/
  | value (word read : List Char)
  deriving DecidableEq, Repr

/-- Where a character leads, and the word and the value of the attribute that it ends. -/
def Place.step : Place → Char → Place × Option (List Char × List Char)
  | .text, c => if c = '<' then (.tag [], none) else (.text, none)
  | .tag word, c =>
    if c = '>' then (.text, none)
    else if c = '"' then (.value word [], none)
    else if c = ' ' ∨ c = '\n' then (.tag [], none)
    else (.tag (word ++ [c]), none)
  | .value word read, c =>
    if c = '"' then (.tag [], some (word, read)) else (.value word (read ++ [c]), none)

/-- The value of an attribute that was ended, if the attribute has the name. -/
def named (name : List Char) : Option (List Char × List Char) → List (List Char)
  | some (word, value) => if word = name ++ ['='] then [value] else []
  | none => []

/-- Where characters lead, and the values of the attributes with the name that they end. -/
def scan (name : List Char) : Place → List Char → Place × List (List Char)
  | place, [] => (place, [])
  | place, c :: cs =>
    let rest := scan name (place.step c).1 cs
    (rest.1, named name (place.step c).2 ++ rest.2)

/-- The values of the attributes with the name in a document, with the entities undone. -/
def attributeValues (name html : String) : List String :=
  (scan name.toList .text html.toList).2.map fun value => String.ofList (unescape value)

section Scan

variable {name : List Char} {place next last : Place} {cs ds : List Char} {values more : List (List Char)}

/-- What is read of one part of a document and then of the next one. -/
theorem scan_append (first : scan name place cs = (next, values))
    (second : scan name next ds = (last, more)) :
    scan name place (cs ++ ds) = (last, values ++ more) := by
  induction cs generalizing place values with
  | nil =>
    cases first
    exact second
  | cons c cs ih =>
    obtain ⟨rfl, rfl⟩ := Prod.mk.inj first
    rw [List.cons_append, scan, ih rfl, List.append_assoc]

/-- A text outside of tags stays outside of tags. -/
theorem scan_escape (name : List Char) (s : String) : scan name .text (escape s) = (.text, []) := by
  have each : ∀ cs : List Char, (∀ c ∈ cs, isDelimiter c = false) → scan name .text cs = (.text, []) := by
    intro cs inner
    induction cs with
    | nil => rfl
    | cons c cs ih =>
      obtain ⟨own, rest⟩ := List.forall_mem_cons.1 inner
      have other : c ≠ '<' := fun same => by
        rw [same] at own
        cases own
      rw [scan, Place.step, if_neg other, ih rest]
      rfl
  exact each _ fun c member => not_delimiter_of_mem_escape member

/-- A text inside of a value is part of the value. -/
theorem scan_escape_value (name word : List Char) (s : String) :
    scan name (.value word []) (escape s) = (.value word (escape s), []) := by
  have each : ∀ cs read : List Char, (∀ c ∈ cs, isDelimiter c = false) →
      scan name (.value word read) cs = (.value word (read ++ cs), []) := by
    intro cs
    induction cs with
    | nil =>
      intro read _
      rw [List.append_nil]
      rfl
    | cons c cs ih =>
      intro read inner
      obtain ⟨own, rest⟩ := List.forall_mem_cons.1 inner
      have other : c ≠ '"' := fun same => by
        rw [same] at own
        cases own
      rw [scan, Place.step, if_neg other, ih _ rest, List.append_assoc]
      rfl
  exact each _ [] fun c member => not_delimiter_of_mem_escape member

end Scan

/-! ## Parts that begin and end between tags -/

/-- Characters that begin and end outside of tags, with the values of the attributes between. -/
structure Reads (name cs : List Char) (values : List (List Char)) : Prop where
  scan : scan name .text cs = (.text, values)

namespace Reads

variable {name cs ds : List Char} {values more : List (List Char)}

theorem nil (name : List Char) : Reads name [] [] := ⟨rfl⟩

theorem append (first : Reads name cs values) (second : Reads name ds more) :
    Reads name (cs ++ ds) (values ++ more) := ⟨scan_append first.scan second.scan⟩

/-- Markup is read character by character. -/
theorem markup (read : Html.scan name .text cs = (.text, values)) :
    Reads name (Piece.markup (String.ofList cs)).chars values := by
  rw [Piece.chars, String.toList_ofList]
  exact ⟨read⟩

/-- A text has no attributes. -/
theorem text (name : List Char) (s : String) : Reads name (Piece.text s).chars [] := ⟨scan_escape name s⟩

variable {l m : Line} {lines : List Line}

/-- Lines are read one after the other. -/
theorem lines_cons (own : Reads name (lineChars l) values) (rest : Reads name (chars lines) more) :
    Reads name (chars (l :: lines)) (values ++ more) := by
  have newline : Reads name ['\n'] [] := ⟨rfl⟩
  cases lines with
  | nil =>
    cases rest.scan
    rw [List.append_nil]
    exact own
  | cons second others => exact own.append (newline.append rest)

/-- The value of an attribute may be a text among the pieces of a line. -/
theorem value_cons {before after : List Char} {s : String}
    (opens : Html.scan name .text before = (.value (name ++ ['=']) [], []))
    (closes : Html.scan name (.tag []) after = (.text, [])) (rest : Reads name (chars lines) more) :
    Reads name (chars
      ([.markup (String.ofList before), .text s, .markup (String.ofList ('"' :: after))] :: lines))
      (escape s :: more) := by
  have ended : Html.scan name (.value (name ++ ['=']) (escape s)) ('"' :: after) = (.text, [escape s]) := by
    rw [Html.scan, Place.step, if_pos rfl, closes, named, if_pos rfl]
    rfl
  have own := scan_append opens (scan_append (scan_escape_value name _ s) ended)
  have line : Reads name (lineChars [.markup (String.ofList before), .text s,
      .markup (String.ofList ('"' :: after))]) [escape s] := by
    refine ⟨?_⟩
    simpa [lineChars, Piece.chars] using own
  exact lines_cons line rest

end Reads

/-- Characters that begin and end outside of tags, without an attribute with the name. -/
abbrev Calm (name cs : List Char) : Prop := Reads name cs []

namespace Calm

variable {name : List Char} {l : Line} {lines : List Line} {p : Piece} {values : List (List Char)}

theorem line_nil (name : List Char) : Calm name (lineChars []) := Reads.nil name

theorem line_cons (own : Calm name p.chars) (rest : Calm name (lineChars l)) :
    Calm name (lineChars (p :: l)) := Reads.append own rest

theorem markup_append {s t : String} (first : Calm name (Piece.markup s).chars)
    (second : Calm name (Piece.markup t).chars) : Calm name (Piece.markup (s ++ t)).chars := by
  rw [Piece.chars, String.toList_append]
  exact Reads.append first second

theorem lines_nil (name : List Char) : Calm name (chars []) := Reads.nil name

theorem lines_cons (own : Calm name (lineChars l)) (rest : Reads name (chars lines) values) :
    Reads name (chars (l :: lines)) values := Reads.lines_cons own rest

/-- A tag may go on in the next line. -/
theorem wrapped {first second third : List Char}
    (own : scan name .text (first ++ '\n' :: (second ++ third)) = (.text, []))
    (rest : Reads name (chars lines) values) : Reads name (chars ([.markup (String.ofList first)] ::
      [.markup (String.ofList second ++ String.ofList third)] :: lines)) values := by
  have joined : Calm name (lineChars [.markup (String.ofList first), .markup "\n",
      .markup (String.ofList second ++ String.ofList third)]) := by
    refine ⟨?_⟩
    simpa [lineChars, Piece.chars] using own
  have whole := Reads.lines_cons joined rest
  cases lines <;> simpa [chars, lineChars, Piece.chars] using whole

end Calm

end ApprovalDesk.Html
