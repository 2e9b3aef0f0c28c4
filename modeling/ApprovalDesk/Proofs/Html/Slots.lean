import ApprovalDesk.Proofs.Html.Escape

/-!
# Slots

The texts of a document stand in the slots that its markup leaves. They bring no delimiters with them,
so the delimiters of a document are those of its markup; and where every slot is followed by a delimiter
before the next one, the texts can be read back from the document, given only its markup.
-/

namespace ApprovalDesk.Html

set_option autoImplicit false

/-- The pieces of a document, with the line ends between its lines. -/
def pieces : List Line → List Piece
  | [] => []
  | [l] => l
  | l :: m :: rest => l ++ .markup "\n" :: pieces (m :: rest)

/-- The characters of pieces. -/
def written (ps : List Piece) : List Char := ps.flatMap Piece.chars

theorem written_pieces (lines : List Line) : written (pieces lines) = chars lines := by
  induction lines with
  | nil => rfl
  | cons l lines ih =>
    cases lines with
    | nil => rfl
    | cons m rest =>
      rw [pieces, chars, written, List.flatMap_append, List.flatMap_cons, ← ih]
      rfl

/-- A line stands in its document. -/
theorem infix_of_line {l : Line} {lines : List Line} (line : l ∈ lines) :
    lineChars l <:+: chars lines := by
  induction lines with
  | nil => cases line
  | cons m lines ih =>
    cases lines with
    | nil =>
      obtain rfl := List.mem_singleton.1 line
      exact List.infix_refl _
    | cons n rest =>
      rw [chars]
      rcases List.mem_cons.1 line with rfl | later
      · exact (List.prefix_append _ _).isInfix
      · exact (ih later).trans ((List.suffix_cons '\n' _).isInfix.trans (List.suffix_append _ _).isInfix)

/-- An element that holds nothing but a text, as it is written. -/
def element (tag text : String) : List Char :=
  ("<" ++ tag ++ ">").toList ++ escape text ++ ("</" ++ tag ++ ">").toList

/-- An element with a line of its own, set in by two blanks, stands in its document. -/
theorem infix_element {tag text : String} {lines : List Line}
    (line : [.markup ("  <" ++ tag ++ ">"), .text text, .markup ("</" ++ tag ++ ">")] ∈ lines) :
    element tag text <:+: chars lines := by
  refine List.IsInfix.trans ⟨[' ', ' '], [], ?_⟩ (infix_of_line line)
  simp [element, lineChars, Piece.chars]

theorem pieces_append {lines rest : List Line} (some : lines ≠ []) (more : rest ≠ []) :
    pieces (lines ++ rest) = pieces lines ++ .markup "\n" :: pieces rest := by
  induction lines with
  | nil => exact absurd rfl some
  | cons l lines ih =>
    cases lines with
    | nil =>
      cases rest with
      | nil => exact absurd rfl more
      | cons m rest => rfl
    | cons second others =>
      have tail := ih (List.cons_ne_nil _ _)
      rw [List.cons_append] at tail ⊢
      rw [List.cons_append, pieces, tail, pieces, List.append_assoc]
      rfl

/-- A piece with its slot left empty. -/
def Piece.blank : Piece → Piece
  | .markup s => .markup s
  | .text _ => .text ""

/-- The markup with its slots. -/
def blank (ps : List Piece) : List Piece := ps.map Piece.blank

/-- The texts in the slots. -/
def texts : List Piece → List String
  | [] => []
  | .markup _ :: ps => texts ps
  | .text s :: ps => s :: texts ps

theorem texts_append (ps qs : List Piece) : texts (ps ++ qs) = texts ps ++ texts qs := by
  induction ps with
  | nil => rfl
  | cons p ps ih =>
    cases p with
    | markup s => exact ih
    | text s => exact congrArg (s :: ·) ih

theorem texts_pieces (lines : List Line) : texts (pieces lines) = lines.flatMap texts := by
  induction lines with
  | nil => rfl
  | cons l lines ih =>
    cases lines with
    | nil => exact (List.append_nil _).symm
    | cons m rest =>
      rw [pieces, texts_append, List.flatMap_cons, ← ih]
      rfl

theorem blank_pieces (lines : List Line) : blank (pieces lines) = pieces (lines.map blank) := by
  induction lines with
  | nil => rfl
  | cons l lines ih =>
    cases lines with
    | nil => rfl
    | cons m rest =>
      rw [pieces, blank, List.map_append, List.map_cons]
      exact congrArg (l.map Piece.blank ++ Piece.markup "\n" :: ·) ih

/-! ## Delimiters -/

/-- The delimiters among characters. -/
def delimiters (cs : List Char) : List Char := cs.filter isDelimiter

theorem delimiters_escape (s : String) : delimiters (escape s) = [] :=
  List.filter_eq_nil_iff.2 fun _ member => Bool.eq_false_iff.1 (not_delimiter_of_mem_escape member)

/-- **The delimiters of a document are those of its markup.** -/
theorem delimiters_blank (ps : List Piece) : delimiters (written (blank ps)) = delimiters (written ps) := by
  induction ps with
  | nil => rfl
  | cons p ps ih =>
    have own : delimiters p.blank.chars = delimiters p.chars := by
      cases p with
      | markup s => rfl
      | text s => exact (delimiters_escape "").trans (delimiters_escape s).symm
    have parts (p : Piece) (ps : List Piece) :
        delimiters (written (p :: ps)) = delimiters p.chars ++ delimiters (written ps) := by
      rw [written, List.flatMap_cons, delimiters, List.filter_append]
      rfl
    rw [blank, List.map_cons, parts, parts, own]
    exact congrArg (delimiters p.chars ++ ·) ih

/-! ## Reading slots -/

/-- The markup before the first slot. -/
def front : List Piece → List Char
  | .markup s :: ps => s.toList ++ front ps
  | _ => []

/-- What stands before the first delimiter. -/
def plain (cs : List Char) : List Char := cs.takeWhile (!isDelimiter ·)

/-- What stands in a slot at the front of characters, before further pieces: all up to the next
delimiter but the markup that comes before it. -/
def slotText (ps : List Piece) (cs : List Char) : List Char :=
  (plain cs).take ((plain cs).length - (plain (front ps)).length)

/-- Reads the texts from a document, given its pieces with their slots left empty. -/
def readSlots : List Piece → List Char → List String
  | [], _ => []
  | .markup s :: ps, cs => readSlots ps (cs.drop s.toList.length)
  | .text _ :: ps, cs =>
    String.ofList (unescape (slotText ps cs)) :: readSlots ps (cs.drop (slotText ps cs).length)

/-- Pieces in which a delimiter comes after every slot and before the next one. -/
inductive Guarded : List Piece → Prop where
  | nil : Guarded []
  | markup {s : String} {ps : List Piece} (rest : Guarded ps) : Guarded (.markup s :: ps)
  | text {s : String} {ps : List Piece} (closed : (front ps).any isDelimiter = true)
      (rest : Guarded ps) : Guarded (.text s :: ps)

theorem front_blank (ps : List Piece) : front (blank ps) = front ps := by
  induction ps with
  | nil => rfl
  | cons p ps ih =>
    cases p with
    | markup s => exact congrArg (s.toList ++ ·) ih
    | text s => rfl

theorem readSlots_blank (ps : List Piece) (cs : List Char) : readSlots (blank ps) cs = readSlots ps cs := by
  induction ps generalizing cs with
  | nil => rfl
  | cons p ps ih =>
    cases p with
    | markup s => exact ih _
    | text s =>
      have slot : slotText (blank ps) cs = slotText ps cs := by rw [slotText, front_blank, slotText]
      change (String.ofList (unescape (slotText (blank ps) cs)) ::
        readSlots (blank ps) (cs.drop (slotText (blank ps) cs).length)) = _
      rw [ih, slot]
      rfl

/-- The markup comes first in what is written. -/
theorem front_begins (ps : List Piece) : front ps <+: written ps := by
  induction ps with
  | nil => exact List.nil_prefix
  | cons p ps ih =>
    cases p with
    | markup s => exact (List.prefix_append_right_inj s.toList).2 ih
    | text s => exact List.nil_prefix

/-- Nothing after a delimiter counts for what stands before it. -/
theorem plain_of_prefix {cs ds : List Char} (first : cs <+: ds) (closed : cs.any isDelimiter = true) :
    plain ds = plain cs := by
  obtain ⟨rest, rfl⟩ := first
  induction cs with
  | nil => cases closed
  | cons c cs ih =>
    rw [List.cons_append, plain, plain, List.takeWhile_cons, List.takeWhile_cons]
    cases own : isDelimiter c with
    | true => rfl
    | false =>
      rw [List.any_cons, own, Bool.false_or] at closed
      exact congrArg (c :: ·) (ih closed)

theorem plain_escape_append (s : String) (cs : List Char) : plain (escape s ++ cs) = escape s ++ plain cs :=
  List.takeWhile_append_of_pos fun _ member => by rw [not_delimiter_of_mem_escape member]; rfl

/-- A text with a delimiter after it is all that stands in its slot. -/
theorem slotText_escape {ps : List Piece} (closed : (front ps).any isDelimiter = true) (s : String) :
    slotText ps (escape s ++ written ps) = escape s := by
  rw [slotText, plain_escape_append, plain_of_prefix (front_begins ps) closed, List.length_append,
    Nat.add_sub_cancel, List.take_left]

/-- **The texts are read back** from what is written. -/
theorem readSlots_written {ps : List Piece} (guarded : Guarded ps) :
    readSlots ps (written ps) = texts ps := by
  induction guarded with
  | nil => rfl
  | @markup s ps _ ih =>
    change readSlots ps ((s.toList ++ written ps).drop s.toList.length) = texts ps
    rw [List.drop_left, ih]
  | @text s ps closed _ ih =>
    change (String.ofList (unescape (slotText ps (escape s ++ written ps))) ::
      readSlots ps ((escape s ++ written ps).drop (slotText ps (escape s ++ written ps)).length)) = _
    rw [slotText_escape closed, unescape_escape, List.drop_left, ih]
    rfl

/-! ## Guarded lines -/

namespace Guarded

variable {ps qs l : List Piece} {lines rest : List Line}

theorem front_append (ps qs : List Piece) : front ps <+: front (ps ++ qs) := by
  induction ps with
  | nil => exact List.nil_prefix
  | cons p ps ih =>
    cases p with
    | markup s => exact (List.prefix_append_right_inj s.toList).2 ih
    | text s => exact List.prefix_refl _

theorem append (first : Guarded ps) (second : Guarded qs) : Guarded (ps ++ qs) := by
  induction first with
  | nil => exact second
  | markup _ ih => exact ih.markup
  | @text s ps closed _ ih =>
    refine ih.text (List.any_eq_true.2 ?_)
    obtain ⟨c, member, delimiter⟩ := List.any_eq_true.1 closed
    exact ⟨c, (front_append ps qs).subset member, delimiter⟩

theorem lines_nil : Guarded (pieces []) := nil

theorem lines_cons (own : Guarded l) (rest : Guarded (pieces lines)) : Guarded (pieces (l :: lines)) := by
  cases lines with
  | nil => exact own
  | cons m lines => exact own.append rest.markup

theorem lines_append (first : Guarded (pieces lines)) (second : Guarded (pieces rest)) :
    Guarded (pieces (lines ++ rest)) := by
  by_cases none : lines = []
  · rw [none]
    exact second
  by_cases last : rest = []
  · rw [last, List.append_nil]
    exact first
  · rw [pieces_append none last]
    exact first.append second.markup

/-- A text may end its line if there is a delimiter in the next line. -/
theorem lines_open {before s : String} {next : List Char} (closed : next.any isDelimiter = true)
    (rest : Guarded (pieces lines)) : Guarded (pieces ([.markup before, .text s] ::
      [.markup (String.ofList next)] :: lines)) := by
  have joined : Guarded [.markup before, .text s, .markup "\n", .markup (String.ofList next)] := by
    refine (text ?_ nil.markup.markup).markup
    simpa [front] using Or.inr (by simpa using closed)
  have whole := lines_cons joined rest
  cases lines <;> exact whole

/-- The markup after a text may have its delimiter in the next line. -/
theorem lines_wrapped {before s : String} {after next : List Char}
    (closed : (after ++ next).any isDelimiter = true) (rest : Guarded (pieces lines)) :
    Guarded (pieces ([.markup before, .text s, .markup (String.ofList after)] ::
      [.markup (String.ofList next)] :: lines)) := by
  have joined : Guarded [.markup before, .text s, .markup (String.ofList after), .markup "\n",
      .markup (String.ofList next)] := by
    refine (text ?_ nil.markup.markup.markup).markup
    rw [List.any_append] at closed
    simp only [front, String.toList_ofList, List.any_append, List.append_nil]
    rcases Bool.or_eq_true_iff.1 closed with own | later
    · rw [own, Bool.true_or]
    · rw [later, Bool.or_true, Bool.or_true]
  have whole := lines_cons joined rest
  cases lines <;> exact whole

/-- Markup that begins with a delimiter closes the slot before it. -/
theorem closed_markup {cs : List Char} (closed : cs.any isDelimiter = true) :
    (front (.markup (String.ofList cs) :: l)).any isDelimiter = true := by
  rw [front, String.toList_ofList, List.any_append, closed, Bool.true_or]

theorem closed_left {s t : String} (closed : (front (.markup s :: l)).any isDelimiter = true) :
    (front (.markup (s ++ t) :: l)).any isDelimiter = true := by
  rw [front, List.any_append, Bool.or_eq_true] at closed
  rw [front, String.toList_append, List.any_append, List.any_append]
  rcases closed with own | later
  · rw [own, Bool.true_or, Bool.true_or]
  · rw [later, Bool.or_true]

end Guarded

end ApprovalDesk.Html
