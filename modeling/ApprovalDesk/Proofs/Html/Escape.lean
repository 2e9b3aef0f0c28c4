import ApprovalDesk.Html

/-!
# Escaping and undoing it

A text that was escaped holds none of the characters that delimit markup, and undoing the five entities
gives the text back.
-/

namespace ApprovalDesk.Html

set_option autoImplicit false

/-- A character that delimits tags or the values of attributes. -/
def isDelimiter (c : Char) : Bool := c == '<' || c == '>' || c == '"' || c == '\''

/-- The characters with the five entities undone. -/
def unescape : List Char → List Char
  | '&' :: 'a' :: 'm' :: 'p' :: ';' :: rest => '&' :: unescape rest
  | '&' :: 'l' :: 't' :: ';' :: rest => '<' :: unescape rest
  | '&' :: 'g' :: 't' :: ';' :: rest => '>' :: unescape rest
  | '&' :: 'q' :: 'u' :: 'o' :: 't' :: ';' :: rest => '"' :: unescape rest
  | '&' :: '#' :: 'x' :: '2' :: '7' :: ';' :: rest => '\'' :: unescape rest
  | c :: rest => c :: unescape rest
  | [] => []

theorem unescape_cons {c : Char} (noEntity : c ≠ '&') (rest : List Char) :
    unescape (c :: rest) = c :: unescape rest := by
  rw [unescape] <;> simp [noEntity]

/-- An escaped character is read back, whatever comes after it. -/
theorem unescape_escapeChar (c : Char) (rest : List Char) :
    unescape (escapeChar c ++ rest) = c :: unescape rest := by
  unfold escapeChar
  split
  case h_6 noEntity _ _ _ _ => exact unescape_cons noEntity rest
  all_goals rfl

/-- **Undoing the entities gives the text back.** -/
theorem unescape_escape (s : String) : String.ofList (unescape (escape s)) = s := by
  have chars (cs : List Char) : unescape (cs.flatMap escapeChar) = cs := by
    induction cs with
    | nil => rfl
    | cons c cs ih => rw [List.flatMap_cons, unescape_escapeChar, ih]
  rw [escape, chars, String.ofList_toList]

/-- A text without characters of a meaning of their own is written as it is. -/
theorem escape_of_plain {s : String} (plain : ∀ c ∈ s.toList, escapeChar c = [c]) :
    escape s = s.toList := by
  rw [escape, List.flatMap_def, List.map_congr_left plain, ← List.flatMap_def, List.flatMap_singleton']

theorem not_delimiter_of_mem_escapeChar (c : Char) : ∀ d ∈ escapeChar c, isDelimiter d = false := by
  have named {cs : List Char} (each : cs.all (fun d => !isDelimiter d) = true) :
      ∀ d ∈ cs, isDelimiter d = false := by
    simpa using each
  unfold escapeChar
  split
  case h_6 noLess noGreater noQuote noApostrophe =>
    intro d member
    rw [List.mem_singleton.1 member]
    simp only [isDelimiter, Bool.or_eq_false_iff, beq_eq_false_iff_ne]
    exact ⟨⟨⟨noLess, noGreater⟩, noQuote⟩, noApostrophe⟩
  all_goals exact named (by decide)

/-- No delimiter is left in a text that was escaped. -/
theorem not_delimiter_of_mem_escape {s : String} {c : Char} (member : c ∈ escape s) :
    isDelimiter c = false := by
  obtain ⟨d, -, inside⟩ := List.mem_flatMap.1 member
  exact not_delimiter_of_mem_escapeChar d c inside

end ApprovalDesk.Html
