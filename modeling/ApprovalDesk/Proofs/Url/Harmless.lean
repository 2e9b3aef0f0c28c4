import ApprovalDesk.Proofs.Url.Authority

/-!
# Harmless addresses

What is written for a URL of the web that was read can stand where an address is expected: it begins with
the scheme, whatever stood before it in the text that was read, and all of it is visible ASCII without
angle brackets. A quotation mark can only stand in the host, where it is a character like any other.
-/

namespace ApprovalDesk.Url

set_option autoImplicit false

open ApprovalDesk.Text

/-- A visible ASCII character that is no angle bracket. -/
def isPrinted (c : Char) : Bool := 0x20 < c.toNat && c.toNat < 0x7F && c != '<' && c != '>'

/-- A printed character that is no quotation mark. -/
def isUnquoted (c : Char) : Bool := isPrinted c && c != '"'

/-- An address of the web in three parts after its scheme: who logs in, the host, and all the rest. -/
structure Parts (address login host rest : List Char) : Prop where
  whole : address = "http://".toList ++ login ++ host ++ rest ∨
    address = "https://".toList ++ login ++ host ++ rest
  atSign : login = [] ∨ ∃ user, login = user ++ ['@'] ∧ Unbroken user
  inner : ∀ c ∈ host, c ≠ '/' ∧ c ≠ '?' ∧ c ≠ '#' ∧ c ≠ '@' ∧ c ≠ '\\'
  follows : rest.head? = some ':' ∨ rest.head? = some '/'

/-- An address of the web that can be given to a browser: nothing in it is blank, no control character and
no angle bracket, and a quotation mark stands in the host if anywhere. -/
structure Harmless (address : List Char) : Prop where
  printed : Only isPrinted address
  unquoted : ∃ login host rest, Parts address login host rest ∧ Only isUnquoted login ∧
    Only isUnquoted rest

theorem isPrinted_of_isUnquoted {c : Char} (unquoted : isUnquoted c = true) : isPrinted c = true :=
  (Bool.and_eq_true_iff.1 unquoted).1

theorem isPrinted_of_isSmooth {c : Char} (smooth : isSmooth c = true) : isPrinted c = true := by
  simp only [isSmooth, Bool.and_eq_true, decide_eq_true_eq] at smooth
  simp [isPrinted, smooth]

theorem isUnquoted_of_keepsFragment {c : Char} (kept : keepsFragment c = true) :
    isUnquoted c = true := by
  simp only [keepsFragment, Bool.and_eq_true, decide_eq_true_eq] at kept
  simp [isUnquoted, isPrinted, kept]

theorem isUnquoted_of_keepsPath {c : Char} (kept : keepsPath c = true) : isUnquoted c = true := by
  simp only [keepsPath, Bool.and_eq_true] at kept
  exact isUnquoted_of_keepsFragment kept.1.1.1.1

theorem isUnquoted_of_keepsUser {c : Char} (kept : keepsUser c = true) : isUnquoted c = true := by
  simp only [keepsUser, Bool.and_eq_true] at kept
  exact isUnquoted_of_keepsPath (by simp [kept])

theorem isUnquoted_of_keepsQuery {special : Bool} {c : Char} (kept : keepsQuery special c = true) :
    isUnquoted c = true := by
  simp only [keepsQuery, Bool.and_eq_true, decide_eq_true_eq] at kept
  simp [isUnquoted, isPrinted, kept]

theorem isUnquoted_of_settledPath {path : List Char} (settled : SettledPath path) :
    Only isUnquoted path := by
  obtain ⟨segments, -, each, rfl⟩ := settled
  intro c member
  obtain ⟨segment, own, inside⟩ := List.mem_flatMap.1 member
  rcases List.mem_cons.1 inside with rfl | inside
  · decide
  · exact isUnquoted_of_keepsPath ((each segment own).kept c inside)

theorem head?_of_settledPath {path : List Char} (settled : SettledPath path) :
    path.head? = some '/' := by
  obtain ⟨segments, some, -, rfl⟩ := settled
  cases segments with
  | nil => exact absurd rfl some
  | cons first rest => rfl

/-! ## Parts of an authority -/

theorem Host.InForm.inner {host : Host} (form : host.InForm) :
    ∀ c ∈ host.write, c ≠ '/' ∧ c ≠ '?' ∧ c ≠ '#' ∧ c ≠ '@' ∧ c ≠ '\\' := by
  intro c member
  rcases form with name | groups
  · have other {d : Char} (strange : isNameChar d = false) : c ≠ d := ne_of_kind (name c member) strange
    exact ⟨other (by decide), other (by decide), other (by decide), other (by decide), other (by decide)⟩
  · have other {d : Char} (strange : isGroupChar d = false) : c ≠ d :=
      ne_of_kind (groups c member) strange
    exact ⟨other (by decide), other (by decide), other (by decide), other (by decide), other (by decide)⟩

theorem isUnquoted_of_isLoginChar {c : Char} (login : isLoginChar c = true) : isUnquoted c = true := by
  rcases Bool.or_eq_true_iff.1 login with kept | colon
  · exact isUnquoted_of_keepsUser kept
  · rw [eq_of_beq colon]
    decide

theorem Authority.InForm.unquoted_login {a : Authority} (form : a.InForm) : Only isUnquoted a.login :=
  form.only_login (fun _ => isUnquoted_of_isLoginChar) (by decide)

theorem Authority.InForm.atSign {a : Authority} (form : a.InForm) :
    a.login = [] ∨ ∃ user, a.login = user ++ ['@'] ∧ Unbroken user :=
  form.login_cases.imp_right fun ⟨user, whole, each⟩ =>
    ⟨user, whole, unbroken_of_smooth (each.mono fun _ => isSmooth_of_isLoginChar)⟩

/-! ## Whole addresses -/

/-- What comes after the host. -/
def afterHost (u : Url) (a : Authority) : List Char :=
  a.portText ++ (u.path ++ u.query.elim [] ('?' :: ·) ++ u.fragment.elim [] ('#' :: ·))

theorem unquoted_afterHost {u : Url} (form : u.InForm) (a : Authority) :
    Only isUnquoted (u.afterHost a) := by
  have path := isUnquoted_of_settledPath form.path
  refine (Authority.only_portText (by decide) (by decide)).append ((path.append ?_).append ?_)
  · cases given : u.query with
    | none => exact only_nil
    | some q =>
      exact ((form.query q given).mono fun _ => isUnquoted_of_keepsQuery).cons (by decide)
  · cases given : u.fragment with
    | none => exact only_nil
    | some f =>
      exact ((form.fragment f given).mono fun _ => isUnquoted_of_keepsFragment).cons (by decide)

theorem parts_chars {u : Url} (form : u.InForm) {a : Authority} (place : u.authority = some a)
    (authority : a.InForm) : Parts u.chars a.login a.host.write (u.afterHost a) where
  whole := by
    have written : u.chars = u.scheme ++ "://".toList ++ a.login ++ a.host.write ++ u.afterHost a := by
      rw [chars, writeBase, place, Option.elim_some, a.write_eq, afterHost]
      simp
    rw [written]
    refine (isWeb_iff.1 form.web).imp (fun http => ?_) fun https => ?_
    · rw [http]
      rfl
    · rw [https]
      rfl
  atSign := authority.atSign
  inner := authority.host.inner
  follows := by
    unfold afterHost Authority.portText
    cases a.port with
    | some port => exact Or.inl rfl
    | none =>
      have slash := head?_of_settledPath form.path
      refine Or.inr ?_
      rw [Option.elim_none, List.nil_append, List.append_assoc, List.head?_append, slash]
      rfl

/-- What is read as a URL of the web is written as a harmless address. -/
theorem harmless_readChars {cs : List Char} {u : Url} (read : readChars cs = .ok u)
    (web : u.isWeb = true) : Harmless u.chars := by
  have form := inForm_readChars read web
  obtain ⟨a, place, authority⟩ := form.authority
  have parts := parts_chars form place authority
  have login := authority.unquoted_login
  have rest := unquoted_afterHost form a
  refine ⟨?_, _, _, _, parts, login, rest⟩
  have printed {cs : List Char} (unquoted : Only isUnquoted cs) : Only isPrinted cs :=
    unquoted.mono fun _ => isPrinted_of_isUnquoted
  have host : Only isPrinted a.host.write :=
    authority.host.smooth.mono fun _ => isPrinted_of_isSmooth
  have spelled {scheme : List Char} (own : scheme.all isPrinted = true) :
      Only isPrinted (scheme ++ a.login ++ a.host.write ++ u.afterHost a) :=
    ((Only.append (List.all_eq_true.1 own) (printed login)).append host).append (printed rest)
  rcases parts.whole with http | https
  · rw [http]
    exact spelled (by decide)
  · rw [https]
    exact spelled (by decide)

end ApprovalDesk.Url
