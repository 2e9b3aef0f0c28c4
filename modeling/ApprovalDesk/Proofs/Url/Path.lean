import ApprovalDesk.Proofs.Text.Percent
import ApprovalDesk.Links

/-!
# Settled paths

A path that was read is settled: it consists of segments in written form, each after a slash, and none
of them stands for another place. To read a settled path again, or one with another settled segment put
after it, changes nothing. So the path of a URL can be taken, extended and put back.
-/

namespace ApprovalDesk.Url

set_option autoImplicit false

open ApprovalDesk.Text

/-! ## Segments that stand for themselves -/

/-- Every percent sign begins the group of a point; the text is in lower case. -/
def signsPoints : List Char → Bool
  | [] => true
  | '%' :: rest => ['2', 'e'].isPrefixOf rest && signsPoints rest
  | _ :: rest => signsPoints rest

theorem signsPoints_of_append {cs ds : List Char} (points : signsPoints (cs ++ ds) = true) :
    signsPoints ds = true := by
  induction cs with
  | nil => exact points
  | cons c cs ih =>
    refine ih ?_
    by_cases sign : c = '%'
    · rw [sign] at points
      exact (Bool.and_eq_true_iff.1 points).2
    · rwa [List.cons_append, signsPoints] at points
      exact sign

/-- Whatever stands for this place or the place above has no other groups than those of points. -/
theorem signsPoints_of_dots {segment : List Char}
    (dots : isDot segment = true ∨ isDotDot segment = true) :
    signsPoints (segment.map Char.toLower) = true := by
  unfold isDot isDotDot at dots
  generalize segment.map Char.toLower = lower at dots
  simp only [Bool.or_eq_true, beq_iff_eq] at dots
  rcases dots with (rfl | rfl) | (((rfl | rfl) | rfl) | rfl) <;> rfl

theorem upperDigit_two : ∀ n < 16, (Hex.upperDigit n).toLower = '2' → n = 2 := by decide

theorem upperDigit_e : ∀ n < 16, (Hex.upperDigit n).toLower = 'e' → n = 14 := by decide

/-- A character has a first byte, and that is the byte of a point only for a point. -/
theorem firstByte (c : Char) :
    ∃ b bs, String.utf8EncodeChar c = b :: bs ∧ (b.toNat = 0x2E → c = '.') := by
  have same : Char.ofNat c.val.toNat = c := Char.ofNat_toNat c
  have bound : c.val.toNat < 1114112 := by
    have valid : c.val.toNat < 55296 ∨ 57343 < c.val.toNat ∧ c.val.toNat < 1114112 := c.valid
    omega
  unfold String.utf8EncodeChar
  generalize c.val.toNat = v at same bound
  dsimp only
  split
  · refine ⟨_, _, rfl, fun point => ?_⟩
    rw [Utf8.toNat_ofNat (by omega)] at point
    rw [← same, point]
  split
  · refine ⟨_, _, rfl, fun point => ?_⟩
    rw [Utf8.toNat_ofNat (by omega)] at point
    omega
  split
  · refine ⟨_, _, rfl, fun point => ?_⟩
    rw [Utf8.toNat_ofNat (by omega)] at point
    omega
  · refine ⟨_, _, rfl, fun point => ?_⟩
    rw [Utf8.toNat_ofNat (by omega)] at point
    omega

/-- A character that is not kept begins with a group, and that is not the group of a point. -/
theorem signsPoints_of_group {c : Char} {rest : List Char}
    (points : signsPoints ((Percent.encodeChar keepsPath c ++ rest).map Char.toLower) = true) :
    c.toNat < 128 ∧ keepsPath c = true := by
  by_cases kept : c.toNat < 0x80 && keepsPath c
  · exact ⟨of_decide_eq_true (Bool.and_eq_true_iff.1 kept).1, (Bool.and_eq_true_iff.1 kept).2⟩
  obtain ⟨b, bs, bytes, point⟩ := firstByte c
  have bound : b.toNat < 256 := b.toNat_lt
  rw [Percent.encodeChar, if_neg kept, bytes] at points
  obtain ⟨group, -⟩ := Bool.and_eq_true_iff.1 points
  obtain ⟨tail, digits⟩ := List.isPrefixOf_iff_prefix.1 group
  obtain ⟨high, digits⟩ := List.cons.inj digits
  obtain ⟨low, -⟩ := List.cons.inj digits
  have high := upperDigit_two (b.toNat / 16) (by omega) high.symm
  have low := upperDigit_e (b.toNat % 16) (by omega) low.symm
  rw [point (by omega)] at kept
  exact absurd (by decide) kept

/-- An encoded text in which all groups are those of points was kept as it is. -/
theorem kept_of_signsPoints {cs : List Char}
    (points : signsPoints ((Percent.encode keepsPath cs).map Char.toLower) = true) :
    ∀ c ∈ cs, c.toNat < 128 ∧ keepsPath c = true := by
  induction cs with
  | nil => intro c member; cases member
  | cons d cs ih =>
    rw [Percent.encode, List.flatMap_cons] at points
    refine List.forall_mem_cons.2 ⟨signsPoints_of_group points, ih ?_⟩
    rw [List.map_append] at points
    exact signsPoints_of_append points

/-- A segment in written form that stands for itself. -/
structure Settled (segment : List Char) : Prop where
  kept : ∀ c ∈ segment, keepsPath c = true
  inner : ∀ c ∈ segment, c ≠ '/' ∧ c ≠ '\\'
  notDot : isDot segment = false
  notDotDot : isDotDot segment = false

/-- A segment can be gone through character by character. -/
theorem Settled.of_all {segment : List Char}
    (each : segment.all (fun c => keepsPath c && (c != '/' && c != '\\')) = true)
    (notDot : isDot segment = false) (notDotDot : isDotDot segment = false) : Settled segment := by
  have all : ∀ c ∈ segment, keepsPath c = true ∧ c ≠ '/' ∧ c ≠ '\\' := by simpa using each
  exact ⟨fun c member => (all c member).1, fun c member => (all c member).2, notDot, notDotDot⟩

theorem keepsPath_visible {c : Char} (kept : keepsPath c = true) : 0x20 < c.toNat ∧ c.toNat < 0x7F := by
  simp only [keepsPath, keepsFragment, Bool.and_eq_true, decide_eq_true_eq] at kept
  omega

/-- A segment that stands for itself is settled once it is written. -/
theorem settled_encode {cs : List Char} (inner : ∀ c ∈ cs, c ≠ '/' ∧ c ≠ '\\')
    (notDot : isDot cs = false) (notDotDot : isDotDot cs = false) :
    Settled (Percent.encode keepsPath cs) := by
  have unchanged (points : signsPoints ((Percent.encode keepsPath cs).map Char.toLower) = true) :
      Percent.encode keepsPath cs = cs := Percent.encode_of_kept (kept_of_signsPoints points)
  have digits : ∀ n < 16, keepsPath (Hex.upperDigit n) = true ∧ Hex.upperDigit n ≠ '/' ∧
      Hex.upperDigit n ≠ '\\' := by decide
  refine ⟨fun c member => ?_, fun c member => ?_, ?_, ?_⟩
  · rcases Percent.mem_encode member with ⟨-, kept⟩ | rfl | ⟨n, digit, rfl⟩
    · exact kept
    · rfl
    · exact (digits n digit).1
  · rcases Percent.mem_encode member with ⟨source, -⟩ | rfl | ⟨n, digit, rfl⟩
    · exact inner c source
    · decide
    · exact (digits n digit).2
  · refine Bool.eq_false_iff.2 fun dot => ?_
    rw [unchanged (signsPoints_of_dots (Or.inl dot)), notDot] at dot
    cases dot
  · refine Bool.eq_false_iff.2 fun dots => ?_
    rw [unchanged (signsPoints_of_dots (Or.inr dots)), notDotDot] at dots
    cases dots

/-- Nothing in a settled segment is dropped. -/
theorem Settled.counted {segment : List Char} (settled : Settled segment) :
    counted segment = segment := by
  refine List.filter_eq_self.2 fun c member => ?_
  have visible := keepsPath_visible (settled.kept c member)
  have other {d : Char} (low : d.toNat ≤ 0x20) : (c == d) = false :=
    beq_false_of_ne fun same => by rw [same] at visible; omega
  rw [isIgnored, other (by decide), other (by decide), other (by decide)]
  rfl

theorem Settled.encode {segment : List Char} (settled : Settled segment) :
    Percent.encode keepsPath segment = segment :=
  Percent.encode_of_kept fun c member =>
    ⟨by have visible := keepsPath_visible (settled.kept c member); omega, settled.kept c member⟩

theorem settled_nil : Settled [] := ⟨by simp, by simp, rfl, rfl⟩

/-! ## Paths of segments -/

/-- Segments, each after a slash. -/
def slashed (segments : List (List Char)) : List Char := segments.flatMap ('/' :: ·)

/-- A path of settled segments. -/
def SettledPath (path : List Char) : Prop :=
  ∃ segments, segments ≠ [] ∧ (∀ s ∈ segments, Settled s) ∧ path = slashed segments

theorem slashed_append (segments more : List (List Char)) :
    slashed (segments ++ more) = slashed segments ++ slashed more := List.flatMap_append

theorem slashed_concat (segments : List (List Char)) (last : List Char) :
    slashed (segments ++ [last]) = slashed segments ++ '/' :: last := by
  rw [slashed_append]
  exact congrArg (slashed segments ++ ·) (List.append_nil _)

section Split

variable {sep : Char → Bool}

theorem splitAt_ne_nil (sep : Char → Bool) (cs : List Char) : splitAt sep cs ≠ [] := by
  cases cs with
  | nil => exact List.cons_ne_nil _ _
  | cons c cs =>
    rw [splitAt]
    split
    · exact List.cons_ne_nil _ _
    · split <;> exact List.cons_ne_nil _ _

/-- What stands in a segment stands in the text, and is no separator. -/
theorem mem_of_mem_splitAt {cs segment : List Char} (member : segment ∈ splitAt sep cs) {c : Char}
    (inside : c ∈ segment) : c ∈ cs ∧ sep c = false := by
  induction cs generalizing segment with
  | nil =>
    rw [List.mem_singleton.1 member] at inside
    cases inside
  | cons d cs ih =>
    have before : c ∈ cs ∧ sep c = false → c ∈ d :: cs ∧ sep c = false := fun found =>
      ⟨List.mem_cons_of_mem d found.1, found.2⟩
    rw [splitAt] at member
    split at member
    · rcases List.mem_cons.1 member with rfl | later
      · cases inside
      · exact before (ih later inside)
    · next other =>
      split at member
      · next none => exact absurd none (splitAt_ne_nil sep cs)
      · next first rest segments =>
        rw [segments] at ih
        rcases List.mem_cons.1 member with rfl | later
        · rcases List.mem_cons.1 inside with rfl | inside
          · exact ⟨List.mem_cons_self, Bool.eq_false_iff.2 other⟩
          · exact before (ih List.mem_cons_self inside)
        · exact before (ih (List.mem_cons_of_mem first later) inside)

/-- What stands before a separator is a segment. -/
theorem splitAt_append {first : List Char} (inner : ∀ c ∈ first, sep c = false) {d : Char}
    (isSep : sep d = true) (cs : List Char) :
    splitAt sep (first ++ d :: cs) = first :: splitAt sep cs := by
  induction first with
  | nil => exact if_pos isSep
  | cons c first ih =>
    obtain ⟨own, rest⟩ := List.forall_mem_cons.1 inner
    rw [List.cons_append, splitAt, own, if_neg Bool.false_ne_true, ih rest]

theorem splitAt_of_inner {segment : List Char} (inner : ∀ c ∈ segment, sep c = false) :
    splitAt sep segment = [segment] := by
  induction segment with
  | nil => rfl
  | cons c segment ih =>
    obtain ⟨own, rest⟩ := List.forall_mem_cons.1 inner
    rw [splitAt, own, if_neg Bool.false_ne_true, ih rest]

/-- Segments without separators are parted again. -/
theorem splitAt_slashed (slash : sep '/' = true) {rest : List (List Char)} :
    ∀ {first : List Char}, (∀ s ∈ first :: rest, ∀ c ∈ s, sep c = false) →
      splitAt sep (first ++ slashed rest) = first :: rest := by
  induction rest with
  | nil =>
    intro first inner
    exact (congrArg (splitAt sep) (List.append_nil first)).trans
      (splitAt_of_inner (inner first List.mem_cons_self))
  | cons second rest ih =>
    intro first inner
    obtain ⟨own, later⟩ := List.forall_mem_cons.1 inner
    have parted : splitAt sep (first ++ slashed (second :: rest)) =
        first :: splitAt sep (second ++ slashed rest) := splitAt_append own slash _
    rw [parted, ih later]

end Split

/-! ## Walks over segments -/

namespace Walk

variable {w : Walk} {segment : List Char}

/-- Where no drive letter counts, a segment is resolved or written. -/
theorem enter_eq (w : Walk) (segment : List Char) : w.enter false segment =
    if isDotDot (counted segment) then ({ w with done := up w.done }, none)
    else if isDot (counted segment) then (w, none)
    else (w, some (Percent.encode keepsPath (counted segment))) := rfl

/-- A settled segment is taken in as it is. -/
theorem enter_settled (w : Walk) (settled : Settled segment) :
    w.enter false segment = (w, some segment) := by
  rw [enter_eq, settled.counted, settled.notDotDot, settled.notDot, settled.encode]
  rfl

theorem mem_up {done : List (List Char)} {s : List Char} (member : s ∈ up done) : s ∈ done := by
  cases done with
  | nil => exact member
  | cons last before =>
    rw [up] at member
    split at member
    · exact member
    · exact List.mem_cons_of_mem last member

/-- Whatever segment is taken in, what is left of it is settled, and so are those before it. -/
theorem settled_enter (done : ∀ s ∈ w.done, Settled s)
    (inner : ∀ c ∈ segment, c ≠ '/' ∧ c ≠ '\\') :
    (∀ s ∈ (w.enter false segment).1.done, Settled s) ∧
      ∀ s, (w.enter false segment).2 = some s → Settled s := by
  rw [enter_eq]
  split
  · exact ⟨fun s member => done s (mem_up member), fun s none => by cases none⟩
  split
  · exact ⟨done, fun s none => by cases none⟩
  · next notDotDot notDot =>
    refine ⟨done, ?_⟩
    rintro s ⟨⟩
    exact settled_encode (fun c member => inner c (List.mem_filter.1 member).1)
      (Bool.eq_false_iff.2 notDot) (Bool.eq_false_iff.2 notDotDot)

theorem settled_pass (done : ∀ s ∈ w.done, Settled s)
    (inner : ∀ c ∈ segment, c ≠ '/' ∧ c ≠ '\\') :
    ∀ s ∈ (w.pass false segment).done, Settled s := by
  obtain ⟨before, own⟩ := settled_enter done inner
  unfold pass
  split
  · next entered =>
    rw [entered] at before
    exact before
  · next entered =>
    rw [entered] at before own
    exact List.forall_mem_cons.2 ⟨own _ rfl, before⟩

/-- The text of a walk has a slash before each of its segments. -/
theorem text_eq (w : Walk) (last : List Char) : w.text last = slashed (w.done.reverse ++ [last]) := by
  unfold text
  generalize w.done.reverse = done
  induction done with
  | nil => exact congrArg ('/' :: ·) (List.append_nil last).symm
  | cons first done ih =>
    rw [List.flatMap_cons, List.cons_append, List.append_assoc, List.append_assoc]
    exact congrArg (fun written => '/' :: (first ++ written)) ih

theorem settledPath_text (done : ∀ s ∈ w.done, Settled s) {last : List Char} (settled : Settled last) :
    SettledPath (w.text last) := by
  refine ⟨w.done.reverse ++ [last], by simp, fun s member => ?_, w.text_eq last⟩
  rcases List.mem_append.1 member with before | own
  · exact done s (List.mem_reverse.1 before)
  · rwa [List.mem_singleton.1 own]

/-- Whatever segments are taken in, the path is settled. -/
theorem settledPath_finish {segments : List (List Char)} (done : ∀ s ∈ w.done, Settled s)
    (inner : ∀ s ∈ segments, ∀ c ∈ s, c ≠ '/' ∧ c ≠ '\\') :
    SettledPath (finish false w segments).2 := by
  induction segments generalizing w with
  | nil => exact settledPath_text done settled_nil
  | cons segment rest ih =>
    obtain ⟨own, later⟩ := List.forall_mem_cons.1 inner
    cases rest with
    | nil =>
      obtain ⟨before, last⟩ := settled_enter done own
      rw [finish]
      generalize w.enter false segment = entered at before last
      rcases entered with ⟨w', _ | written⟩
      · exact settledPath_text before settled_nil
      · exact settledPath_text before (last written rfl)
    | cons second rest => exact ih (settled_pass done own) later

/-- Settled segments are taken in as they are. -/
theorem finish_settled {segments : List (List Char)} (some : segments ≠ [])
    (settled : ∀ s ∈ segments, Settled s) (w : Walk) :
    (finish false w segments).2 = slashed (w.done.reverse ++ segments) := by
  induction segments generalizing w with
  | nil => exact absurd rfl some
  | cons segment rest ih =>
    obtain ⟨own, later⟩ := List.forall_mem_cons.1 settled
    cases rest with
    | nil =>
      rw [finish, enter_settled w own]
      exact w.text_eq segment
    | cons second rest =>
      have passed : w.pass false segment = { w with done := segment :: w.done } := by
        rw [pass, enter_settled w own]
      change (finish false (w.pass false segment) (second :: rest)).2 = _
      rw [passed, ih (List.cons_ne_nil _ _) later, List.reverse_cons, List.append_assoc,
        List.singleton_append]

end Walk

/-! ## Reading paths -/

section Reading

variable {scheme : List Char} (noFile : isFile scheme = false)

include noFile

/-- A settled path is read as it is. -/
theorem pathAfterAuthority_settled {path : List Char} (settled : SettledPath path) :
    (pathAfterAuthority scheme path).1 = path := by
  obtain ⟨segments, some, each, rfl⟩ := settled
  cases segments with
  | nil => exact absurd rfl some
  | cons first rest =>
    have inner : ∀ s ∈ first :: rest, ∀ c ∈ s, (c == '/' || (isSpecial scheme && c == '\\')) = false := by
      intro s member c inside
      obtain ⟨slash, backslash⟩ := (each s member).inner c inside
      simp [slash, backslash]
    have parted : splitAt (fun c => c == '/' || (isSpecial scheme && c == '\\'))
        (first ++ slashed rest) = first :: rest := splitAt_slashed (by simp) inner
    change (resolvePath scheme (first ++ slashed rest)).1 = _
    unfold resolvePath
    rw [noFile]
    dsimp only
    rw [parted]
    exact Walk.finish_settled some each ⟨[], false⟩

variable (special : isSpecial scheme = true)

include special

/-- Whatever is read as a path is settled. -/
theorem settledPath_resolvePath (cs : List Char) : SettledPath (resolvePath scheme cs).1 := by
  unfold resolvePath
  rw [noFile, special]
  refine Walk.settledPath_finish (by simp) fun s member c inside => ?_
  have other := (mem_of_mem_splitAt member inside).2
  simpa using other

theorem settledPath_pathAfterAuthority (cs : List Char) :
    SettledPath (pathAfterAuthority scheme cs).1 := by
  unfold pathAfterAuthority
  simp only [special, if_true]
  split <;> exact settledPath_resolvePath noFile special _

end Reading

/-! ## Putting a segment after a path -/

theorem dropEndSlashes_slash (cs : List Char) : dropEndSlashes (cs ++ ['/']) = dropEndSlashes cs := by
  rw [dropEndSlashes, List.reverse_concat, List.dropWhile_cons, if_pos (beq_self_eq_true '/')]
  rfl

/-- Nothing is dropped from a text that ends in another character. -/
theorem dropEndSlashes_other (cs : List Char) {c : Char} (other : c ≠ '/') :
    dropEndSlashes (cs ++ [c]) = cs ++ [c] := by
  rw [dropEndSlashes, List.reverse_concat, List.dropWhile_cons, if_neg (by simp [other]),
    List.reverse_cons, List.reverse_reverse]

/-- Dropping slashes at the end drops the empty segments there. -/
theorem dropEndSlashes_slashed {segments : List (List Char)} (settled : ∀ s ∈ segments, Settled s) :
    ∃ rest, (∀ s ∈ rest, Settled s) ∧ dropEndSlashes (slashed segments) = slashed rest := by
  obtain ⟨backwards, rfl⟩ : ∃ backwards : List (List Char), segments = backwards.reverse :=
    ⟨segments.reverse, segments.reverse_reverse.symm⟩
  induction backwards with
  | nil => exact ⟨[], settled, rfl⟩
  | cons last before ih =>
    rw [List.reverse_cons] at settled ⊢
    rcases List.eq_nil_or_concat last with rfl | ⟨init, c, rfl⟩
    · rw [slashed_concat, dropEndSlashes_slash]
      exact ih fun s member => settled s (List.mem_append_left _ member)
    · refine ⟨_, settled, ?_⟩
      have other : c ≠ '/' :=
        ((settled _ (List.mem_append_right _ List.mem_cons_self)).inner c (by simp)).1
      rw [slashed_concat, List.concat_eq_append, ← List.cons_append, ← List.append_assoc,
        dropEndSlashes_other _ other]

/-- **A path can be extended** by a settled segment, and is still settled. -/
theorem SettledPath.extend {path segment : List Char} (path_settled : SettledPath path)
    (segment_settled : Settled segment) : SettledPath (dropEndSlashes path ++ '/' :: segment) := by
  obtain ⟨segments, -, each, rfl⟩ := path_settled
  obtain ⟨rest, settled, dropped⟩ := dropEndSlashes_slashed each
  refine ⟨rest ++ [segment], by simp, fun s member => ?_, ?_⟩
  · rcases List.mem_append.1 member with before | own
    · exact settled s before
    · rwa [List.mem_singleton.1 own]
  · rw [dropped, slashed_concat]

/-! ## URLs of the web -/

theorem readFile_scheme {cs : List Char} {u : Url} (read : readFile cs = .ok u) :
    u.scheme = "file".toList := by
  unfold readFile at read
  dsimp only at read
  cases place : afterSlashes? (splitTail "file".toList cs).1 with
  | none =>
    rw [place] at read
    cases read
    rfl
  | some rest =>
    rw [place] at read
    dsimp only at read
    split at read
    · cases read
      rfl
    cases named : readFileHost (counted (rest.takeWhile (!endsFileHost ·))) with
    | error e =>
      rw [named] at read
      cases read
    | ok host =>
      rw [named] at read
      cases read
      rfl

/-- What is read with an authority has it, and the path comes after it. -/
theorem readWithAuthority_path {scheme cs : List Char} {query fragment : Option (List Char)} {u : Url}
    (read : readWithAuthority scheme cs query fragment = .ok u) :
    u.scheme = scheme ∧ u.authority.isSome = true ∧ ∃ rest, u.path = (pathAfterAuthority scheme rest).1 := by
  unfold readWithAuthority at read
  dsimp only at read
  generalize readAuthority scheme _ _ = result at read
  rcases result with e | ⟨authority, rest⟩
  · cases read
  · cases read
    exact ⟨rfl, rfl, _, rfl⟩

theorem isWeb_iff {u : Url} : u.isWeb = true ↔ u.scheme = "http".toList ∨ u.scheme = "https".toList := by
  rw [isWeb, Bool.or_eq_true, beq_iff_eq, beq_iff_eq]

theorem isSpecial_of_isWeb {u : Url} (web : u.isWeb = true) : isSpecial u.scheme = true := by
  rcases isWeb_iff.1 web with http | https
  · rw [http]
    decide
  · rw [https]
    decide

theorem isFile_of_isWeb {u : Url} (web : u.isWeb = true) : isFile u.scheme = false := by
  rcases isWeb_iff.1 web with http | https
  · rw [http]
    decide
  · rw [https]
    decide

/-- A URL of the web is read with an authority, and its query and fragment were split off before. -/
theorem readWithAuthority_of_isWeb {cs : List Char} {u : Url} (read : readChars cs = .ok u)
    (web : u.isWeb = true) : ∃ rest tail, readWithAuthority u.scheme rest
      (splitTail u.scheme tail).2.1 (splitTail u.scheme tail).2.2 = .ok u := by
  have special := isSpecial_of_isWeb web
  have noFile := isFile_of_isWeb web
  unfold readChars at read
  dsimp only at read
  split at read
  · cases read
  next scheme tail _ =>
  split at read
  · rw [readFile_scheme read] at noFile
    cases noFile
  split at read
  · obtain ⟨rfl, -⟩ := readWithAuthority_path read
    exact ⟨_, tail, read⟩
  -- The scheme is not special, whatever form the rest has.
  next ordinary =>
  have same : u.scheme = scheme := by
    split at read
    · exact (readWithAuthority_path read).1
    · cases read
      rfl
    · cases read
      rfl
  exact absurd (same ▸ special) ordinary

/-- What is read as a URL of the web has an authority and a settled path. -/
theorem settledPath_readChars {cs : List Char} {u : Url} (read : readChars cs = .ok u)
    (web : u.isWeb = true) : u.authority.isSome = true ∧ SettledPath u.path := by
  obtain ⟨rest, tail, read⟩ := readWithAuthority_of_isWeb read web
  obtain ⟨-, authority, after, path⟩ := readWithAuthority_path read
  exact ⟨authority, path ▸
    settledPath_pathAfterAuthority (isFile_of_isWeb web) (isSpecial_of_isWeb web) after⟩

/-- A URL of the web can be given another settled path. -/
theorem withPath_settled {u : Url} (web : u.isWeb = true) (authority : u.authority.isSome = true)
    {path : List Char} (settled : SettledPath path) : u.withPath path = { u with path } := by
  have hasPath : u.isOpaque = false := by
    cases place : u.authority with
    | none =>
      rw [place] at authority
      cases authority
    | some a => simp [isOpaque, place]
  unfold withPath
  dsimp only
  rw [hasPath, if_neg Bool.false_ne_true, pathAfterAuthority_settled (isFile_of_isWeb web) settled]

end ApprovalDesk.Url
