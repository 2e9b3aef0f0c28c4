import ApprovalDesk.Text.Blank

/-!
# Trimmed texts

A text is trimmed if neither end of it is blank. Trimming makes it so.
-/

namespace ApprovalDesk.Text

set_option autoImplicit false

/-- Neither end of the text is blank. -/
structure Trimmed (s : String) : Prop where
  front : ∀ c, s.toList.head? = some c → isBlank c = false
  back : ∀ c, s.toList.getLast? = some c → isBlank c = false

theorem head?_dropWhile_isBlank {cs : List Char} {c : Char}
    (first : (cs.dropWhile isBlank).head? = some c) : isBlank c = false := by
  have kept := List.head?_dropWhile_not isBlank cs
  rw [first] at kept
  exact kept

/-- What trimming leaves at the end is part of what it was given. -/
theorem trimEndChars_prefix (cs : List Char) : trimEndChars cs <+: cs := by
  unfold trimEndChars
  have part : cs.reverse.dropWhile isBlank <:+ cs.reverse := List.dropWhile_suffix isBlank
  simpa using List.reverse_prefix.2 part

theorem trim_trimmed (s : String) : Trimmed (trim s) where
  front c first := by
    rw [trim, String.toList_ofList, trimChars] at first
    have part := trimEndChars_prefix (trimStartChars s.toList)
    generalize trimEndChars (trimStartChars s.toList) = kept at first part
    obtain ⟨dropped, whole⟩ := part
    cases kept with
    | nil => cases first
    | cons d kept =>
      obtain rfl : d = c := Option.some.inj first
      have kept_first : (s.toList.dropWhile isBlank).head? = some d := by
        rw [← trimStartChars, ← whole]
        rfl
      exact head?_dropWhile_isBlank kept_first
  back c last := by
    rw [trim, String.toList_ofList, trimChars, trimEndChars, List.getLast?_reverse] at last
    exact head?_dropWhile_isBlank last

/-- `t` is what is left of `s` without the blank characters at both ends. -/
structure TrimsTo (s t : String) : Prop where
  parts : ∃ front back, s.toList = front ++ t.toList ++ back ∧
    (∀ c ∈ front, isBlank c = true) ∧ ∀ c ∈ back, isBlank c = true
  trimmed : Trimmed t

theorem isBlank_of_mem_takeWhile {cs : List Char} {c : Char} (member : c ∈ cs.takeWhile isBlank) :
    isBlank c = true :=
  List.all_eq_true.1 List.all_takeWhile c member

theorem trimsTo_trim (s : String) : TrimsTo s (trim s) where
  parts := by
    let start := s.toList.dropWhile isBlank
    refine ⟨s.toList.takeWhile isBlank, (start.reverse.takeWhile isBlank).reverse, ?_,
      fun c => isBlank_of_mem_takeWhile,
      fun c member => isBlank_of_mem_takeWhile (List.mem_reverse.1 member)⟩
    have ending : trimEndChars start ++ (start.reverse.takeWhile isBlank).reverse = start := by
      rw [trimEndChars, ← List.reverse_append, List.takeWhile_append_dropWhile, List.reverse_reverse]
    rw [trim, String.toList_ofList, trimChars, trimStartChars, List.append_assoc, ending,
      List.takeWhile_append_dropWhile]
  trimmed := trim_trimmed s

/-- A text is blank if all of its characters are. -/
theorem isBlankText_iff {s : String} : isBlankText s = true ↔ ∀ c ∈ s.toList, isBlank c = true := by
  obtain ⟨⟨front, back, whole, blankFront, blankBack⟩, trimmed⟩ := trimsTo_trim s
  rw [isBlankText, String.isEmpty_iff, ← String.toList_eq_nil_iff]
  constructor
  · intro nothing c member
    rw [whole, nothing, List.append_nil] at member
    exact (List.mem_append.1 member).elim (blankFront c) (blankBack c)
  · intro blank
    cases kept : (trim s).toList with
    | nil => rfl
    | cons c rest =>
      have inside : c ∈ s.toList := by
        rw [whole, kept]
        simp
      have solid := trimmed.front c (by rw [kept]; rfl)
      rw [blank c inside] at solid
      cases solid

end ApprovalDesk.Text
