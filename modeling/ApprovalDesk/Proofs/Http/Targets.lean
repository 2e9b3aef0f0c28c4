import ApprovalDesk.Proofs.Http.Steps
import ApprovalDesk.Proofs.Url.Authority

/-!
# Following a URL

A request may name its target as a whole URL or only as what is asked of the host. The query that it
brings is the query of the URL in both cases.
-/

namespace ApprovalDesk.Http

set_option autoImplicit false

open ApprovalDesk.Text

/-! ## Up to a mark -/

section Mark

variable {cs : List Char} {mark : Char} (none : mark ∉ cs)

include none

theorem ne_mark : ∀ c ∈ cs, (c != mark) = true := fun _ member =>
  bne_iff_ne.2 fun same => none (same ▸ member)

/-- A text is taken up to the mark after it, if there is one. -/
theorem takeWhile_mark (after : Option (List Char)) :
    (cs ++ after.elim [] (mark :: ·)).takeWhile (· != mark) = cs := by
  rw [List.takeWhile_append_of_pos (ne_mark none)]
  cases after with
  | none => exact List.append_nil cs
  | some rest => simp

/-- What comes after the mark is what is left. -/
theorem dropWhile_mark (after : Option (List Char)) :
    ((cs ++ after.elim [] (mark :: ·)).dropWhile (· != mark)).drop 1 = after.getD [] := by
  rw [List.dropWhile_append_of_pos (ne_mark none)]
  cases after with
  | none => rfl
  | some rest => simp

end Mark

theorem kept_of_mem_settledPath {path : List Char} (settled : Url.SettledPath path) {c : Char}
    (member : c ∈ path) : c = '/' ∨ Url.keepsPath c = true := by
  obtain ⟨segments, -, each, rfl⟩ := settled
  obtain ⟨segment, own, inside⟩ := List.mem_flatMap.1 member
  rcases List.mem_cons.1 inside with slash | inside
  · exact Or.inl slash
  · exact Or.inr ((each segment own).kept c inside)

theorem not_mem_settledPath {path : List Char} (settled : Url.SettledPath path) {c : Char}
    (dropped : Url.keepsPath c = false) (noSlash : c ≠ '/') : c ∉ path := by
  intro member
  rcases kept_of_mem_settledPath settled member with slash | kept
  · exact noSlash slash
  · rw [dropped] at kept
    cases kept

/-! ## Targets -/

namespace Request

variable {r : Request} {u : Url}

/-- What is asked of the host of a URL begins with a slash and holds no fragment. -/
theorem resource_shape (clear : u.Clear) : (∃ rest, u.resource = '/' :: rest) ∧ '#' ∉ u.resource := by
  constructor
  · obtain ⟨segments, some, -, path⟩ := clear.path
    cases segments with
    | nil => exact absurd rfl some
    | cons first rest =>
      rw [Url.resource, path]
      exact ⟨_, rfl⟩
  · intro member
    rcases List.mem_append.1 member with inPath | inQuery
    · exact not_mem_settledPath clear.path (by decide) (by decide) inPath
    · cases given : u.query with
      | none =>
        rw [given] at inQuery
        cases inQuery
      | some q =>
        rw [given] at inQuery
        rcases List.mem_cons.1 inQuery with same | inside
        · cases same
        · exact clear.query q given inside

/-- A target may be only what is asked of the host. -/
theorem localTarget_of_slash {rest : List Char} (noMark : '#' ∉ '/' :: rest)
    (target : r.target.toList = '/' :: rest) : r.localTarget = '/' :: rest := by
  have taken := takeWhile_mark noMark none
  rw [Option.elim_none, List.append_nil] at taken
  unfold localTarget
  rw [target, taken]
  rfl

theorem localTarget_resource (clear : u.Clear) (target : r.target.toList = u.resource) :
    r.localTarget = u.resource := by
  obtain ⟨⟨rest, slash⟩, noMark⟩ := resource_shape clear
  rw [slash] at target noMark ⊢
  exact localTarget_of_slash noMark target

/-- A target may be a whole URL. -/
theorem localTarget_write (clear : u.Clear) (target : r.target = u.write) :
    r.localTarget = u.resource := by
  obtain ⟨⟨rest, slash⟩, noMark⟩ := resource_shape clear
  obtain ⟨a, authority, unbroken⟩ := clear.authority
  obtain ⟨letters, scheme⟩ : ∃ letters, u.scheme = 'h' :: letters := by
    rcases Url.isWeb_iff.1 clear.web with http | https
    · exact ⟨_, http⟩
    · exact ⟨_, https⟩
  have noColon : ':' ∉ u.scheme ∧ '#' ∉ u.scheme := by
    rcases Url.isWeb_iff.1 clear.web with http | https
    · rw [http]
      decide
    · rw [https]
      decide
  have chars : r.target.toList =
      (u.scheme ++ ':' :: '/' :: '/' :: (a.write ++ u.resource)) ++ u.fragment.elim [] ('#' :: ·) := by
    rw [target, Url.write, String.toList_ofList, Url.chars, Url.writeBase, authority, Url.resource]
    simp
  have front : '#' ∉ u.scheme ++ ':' :: '/' :: '/' :: (a.write ++ u.resource) := by
    simp only [List.mem_append, List.mem_cons, not_or]
    exact ⟨noColon.2, by decide, by decide, by decide, fun member => (unbroken _ member).2.2 rfl, noMark⟩
  have place : ∀ c ∈ a.write, (c != '/' && c != '?') = true := fun c member => by
    obtain ⟨noSlash, noQuery, -⟩ := unbroken c member
    simp [noSlash, noQuery]
  unfold localTarget
  rw [chars, takeWhile_mark front]
  dsimp only
  rw [if_neg (by simp [scheme]), List.dropWhile_append_of_pos (ne_mark noColon.1)]
  change (a.write ++ u.resource).dropWhile _ = _
  rw [List.dropWhile_append_of_pos place, slash]
  rfl

/-- The query comes after the first mark. -/
theorem query_of_localTarget {path : List Char} {after : Option (List Char)} (noMark : '?' ∉ path)
    (target : r.localTarget = path ++ after.elim [] ('?' :: ·)) :
    r.query = Utf8.encodeChars (after.getD []) := by
  rw [query, target, dropWhile_mark noMark]

/-- **The query of a URL is read from a request that follows it.** -/
theorem query_eq (clear : u.Clear) (target : r.localTarget = u.resource) :
    r.query = Utf8.encodeChars (u.query.getD []) :=
  query_of_localTarget (not_mem_settledPath clear.path (by decide) (by decide)) target

end Request

end ApprovalDesk.Http
