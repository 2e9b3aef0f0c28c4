import ApprovalDesk.Proofs.Text.Hex
import ApprovalDesk.Uuid

/-!
# A UUID is read back

The written form has 36 characters of one byte each, with hyphens where the reader of groups looks for
them. Without the hyphens the digits are those of the bytes.
-/

namespace ApprovalDesk.Uuid

set_option autoImplicit false

open ApprovalDesk.Text

/-- Characters of one byte each. -/
theorem byteLength_of_narrow {cs : List Char} (narrow : ∀ c ∈ cs, c.utf8Size = 1) :
    byteLength cs = cs.length := by
  have count (start : Nat) : cs.foldl (fun n c => n + c.utf8Size) start = start + cs.length := by
    induction cs generalizing start with
    | nil => rfl
    | cons c cs ih =>
      rw [List.foldl_cons, narrow c List.mem_cons_self,
        ih (fun d member => narrow d (List.mem_cons_of_mem c member)), List.length_cons]
      omega
  rw [byteLength, count, Nat.zero_add]

/-- What stands after a group and the character behind it. -/
theorem drop_group {g rest : List Char} {c : Char} {position width : Nat} {cs : List Char}
    (here : cs.drop position = g ++ c :: rest) (length : g.length = width) :
    cs.drop (position + width) = c :: rest ∧ cs.drop (position + width + 1) = rest := by
  have atEnd : cs.drop (position + width) = c :: rest := by
    rw [← List.drop_drop, here, List.drop_left' length]
  refine ⟨atEnd, ?_⟩
  rw [← List.drop_drop, atEnd]
  rfl

/-- Five groups of digits with hyphens between them are read without the hyphens. -/
theorem ofGroups?_groups {a b c d e : List Char} (first : a.length = 8) (second : b.length = 4)
    (third : c.length = 4) (fourth : d.length = 4) :
    ofGroups? (a ++ '-' :: (b ++ '-' :: (c ++ '-' :: (d ++ '-' :: e)))) =
      ofDigits? (a ++ b ++ c ++ d ++ e) := by
  generalize text : a ++ '-' :: (b ++ '-' :: (c ++ '-' :: (d ++ '-' :: e))) = cs
  have start : cs.drop 0 = a ++ '-' :: (b ++ '-' :: (c ++ '-' :: (d ++ '-' :: e))) := text.symm
  obtain ⟨at8, at9⟩ := drop_group start first
  obtain ⟨at13, at14⟩ := drop_group at9 second
  obtain ⟨at18, at19⟩ := drop_group at14 third
  obtain ⟨at23, at24⟩ := drop_group at19 fourth
  have front : cs.take 8 = a := by rw [← text, List.take_left' first]
  unfold ofGroups?
  rw [at8, at13, at18, at23, at9, at14, at19, at24, front, List.take_left' second,
    List.take_left' third, List.take_left' fourth]
  rfl

/-- The written form is the digits of the bytes in five groups. -/
theorem exists_groups (u : Uuid) : ∃ a b c d e : List Char,
    a.length = 8 ∧ b.length = 4 ∧ c.length = 4 ∧ d.length = 4 ∧ e.length = 12 ∧
      a ++ b ++ c ++ d ++ e = Hex.encode u.bytes ∧
      u.chars = a ++ '-' :: (b ++ '-' :: (c ++ '-' :: (d ++ '-' :: e))) := by
  have length : (Hex.encode u.bytes).length = 32 := by rw [Hex.length_encode, u.size]
  unfold chars
  generalize Hex.encode u.bytes = ds at length ⊢
  refine ⟨ds.take 8, (ds.drop 8).take 4, (ds.drop 12).take 4, (ds.drop 16).take 4, ds.drop 20,
    ?_, ?_, ?_, ?_, ?_, ?whole, ?text⟩
  case whole =>
    have part (position count : Nat) :
        (ds.drop position).take count ++ ds.drop (position + count) = ds.drop position := by
      rw [← List.drop_drop, List.take_append_drop]
    have second : (ds.drop 8).take 4 ++ ds.drop 12 = ds.drop 8 := part 8 4
    have third : (ds.drop 12).take 4 ++ ds.drop 16 = ds.drop 12 := part 12 4
    have fourth : (ds.drop 16).take 4 ++ ds.drop 20 = ds.drop 16 := part 16 4
    rw [List.append_assoc, fourth, List.append_assoc, third, List.append_assoc, second,
      List.take_append_drop]
  case text => simp only [List.append_assoc, List.cons_append]
  all_goals
    simp only [List.length_take, List.length_drop]
    omega

/-- **A UUID is read back** from its written form. -/
theorem read_write (u : Uuid) : read u.write = .ok u := by
  obtain ⟨a, b, c, d, e, first, second, third, fourth, fifth, whole, text⟩ := u.exists_groups
  have narrow : ∀ c ∈ Hex.encode u.bytes, c.utf8Size = 1 :=
    Hex.forall_mem_encode Hex.utf8Size_digit u.bytes
  have groups : ofGroups? u.chars = some u := by
    rw [text, ofGroups?_groups first second third fourth, whole, ofDigits?, Hex.decode?_encode,
      Option.bind_some, dif_pos u.size]
  have size : byteLength u.chars = hyphenatedLength := by
    rw [byteLength_of_narrow]
    · rw [text]
      simp only [List.length_append, List.length_cons, first, second, third, fourth, fifth]
      rfl
    · intro x written
      have digitOrHyphen : x ∈ Hex.encode u.bytes ∨ x = '-' := by
        rw [← whole]
        rw [text] at written
        simp only [List.mem_append, List.mem_cons] at written ⊢
        grind
      rcases digitOrHyphen with digit | rfl
      · exact narrow x digit
      · rfl
  unfold read write
  rw [String.toList_ofList]
  dsimp only
  rw [size, if_neg (by decide), if_pos rfl, groups]

end ApprovalDesk.Uuid
