import ApprovalDesk.Proofs.Results
import ApprovalDesk.Proofs.Url.Path

/-!
# Where the parts of a URL end

Each part of a URL of the web that was read is in its form: the host is a name in ASCII or an address,
and whatever else was given is encoded. So no authority holds a slash, and neither an authority nor a path
holds the marks before the query and the fragment. What was put together from the parts of a URL can be
taken apart at these marks.
-/

namespace ApprovalDesk.Url

set_option autoImplicit false

open ApprovalDesk.Text

/-- A text in which no part of a URL ends. -/
def Unbroken (cs : List Char) : Prop := ∀ c ∈ cs, c ≠ '/' ∧ c ≠ '?' ∧ c ≠ '#'

/-! ## Kinds of characters -/

/-- A visible ASCII character with which neither a part of a URL nor markup begins or ends. -/
def isSmooth (c : Char) : Bool :=
  0x20 < c.toNat && c.toNat < 0x7F && c != '/' && c != '?' && c != '#' && c != '<' && c != '>'

/-- A character of a domain name in ASCII. -/
def isNameChar (c : Char) : Bool := isAscii c && !isForbiddenInDomain c

/-- All characters of the text are of the kind. -/
def Only (kind : Char → Bool) (cs : List Char) : Prop := ∀ c ∈ cs, kind c = true

theorem unbroken_of_smooth {cs : List Char} (smooth : Only isSmooth cs) : Unbroken cs := by
  intro c member
  have own := smooth c member
  simp only [isSmooth, Bool.and_eq_true, bne_iff_ne] at own
  simp [own]

/-- Characters differ if only one of them is of the kind. -/
theorem ne_of_kind {kind : Char → Bool} {c d : Char} (own : kind c = true) (other : kind d = false) :
    c ≠ d := by
  rintro rfl
  rw [own] at other
  cases other

theorem isSmooth_of_isNameChar {c : Char} (name : isNameChar c = true) : isSmooth c = true := by
  have other {d : Char} (strange : isNameChar d = false) : c ≠ d := ne_of_kind name strange
  obtain ⟨ascii, permitted⟩ := Bool.and_eq_true_iff.1 name
  have permitted : isForbiddenInDomain c = false := by simpa using permitted
  have visible : 0x20 < c.toNat ∧ c.toNat < 0x7F := by
    simp only [isForbiddenInDomain, Bool.or_eq_false_iff, decide_eq_false_iff_not, beq_eq_false_iff_ne]
      at permitted
    have ascii : c.toNat < 0x80 := of_decide_eq_true ascii
    omega
  have marks : c ≠ '/' ∧ c ≠ '?' ∧ c ≠ '#' ∧ c ≠ '<' ∧ c ≠ '>' :=
    ⟨other (by decide), other (by decide), other (by decide), other (by decide), other (by decide)⟩
  simp [isSmooth, visible, marks]

section Only

variable {kind kind' : Char → Bool} {cs ds : List Char}

theorem only_nil : Only kind [] := by
  intro c member
  cases member

theorem Only.append (first : Only kind cs) (second : Only kind ds) : Only kind (cs ++ ds) := by
  intro c member
  rcases List.mem_append.1 member with inFirst | inSecond
  · exact first c inFirst
  · exact second c inSecond

theorem Only.cons {c : Char} (rest : Only kind cs) (own : kind c = true) : Only kind (c :: cs) :=
  List.forall_mem_cons.2 ⟨own, rest⟩

theorem Only.mono (all : Only kind cs) (each : ∀ c, kind c = true → kind' c = true) : Only kind' cs :=
  fun c member => each c (all c member)

theorem Only.smooth (name : Only isNameChar cs) : Only isSmooth cs :=
  name.mono fun _ => isSmooth_of_isNameChar

/-! ## Numbers -/

theorem only_hex (digits : ∀ d < 16, kind (Hex.digit d) = true) (n : Nat) : Only kind (Hex.ofNat n) := by
  induction n using Hex.ofNat.induct with
  | case1 n small =>
    rw [Hex.ofNat, if_pos small]
    exact only_nil.cons (digits n small)
  | case2 n large ih =>
    rw [Hex.ofNat, if_neg large]
    exact ih.append (only_nil.cons (digits (n % 16) (by omega)))

/-- Where the characters of the groups are kept too, an encoded text has only characters that are kept. -/
theorem only_encode (sign : kind '%' = true) (digits : ∀ n < 16, kind (Hex.upperDigit n) = true)
    (cs : List Char) : Only kind (Percent.encode kind cs) := by
  intro c member
  rcases Percent.mem_encode member with ⟨-, kept⟩ | rfl | ⟨n, digit, rfl⟩
  · exact kept
  · exact sign
  · exact digits n digit

end Only

theorem name_writeV4 (address : Nat) : Only isNameChar (writeV4 address) := by
  have decimal (n : Nat) : Only isNameChar (Decimal.ofNat n) := Decimal.forall_mem_ofNat (by decide) n
  have byte (n : Nat) : Only isNameChar ('.' :: Decimal.ofNat n) := (decimal n).cons (by decide)
  exact (((decimal _).append (byte _)).append (byte _)).append (byte _)

/-- A character of an address between brackets. -/
def isGroupChar (c : Char) : Bool := "[0123456789abcdef:]".toList.contains c

theorem isSmooth_of_isGroupChar {c : Char} (group : isGroupChar c = true) : isSmooth c = true := by
  have each : "[0123456789abcdef:]".toList.all isSmooth = true := by decide
  exact List.all_eq_true.1 each c (List.contains_iff_mem.1 group)

theorem group_writeGroups (groups : List Nat) : Only isGroupChar (writeGroups groups) := by
  induction groups using writeGroups.induct with
  | case1 => exact only_nil
  | case2 g => exact only_hex (by decide) g
  | case3 g groups some ih =>
    rw [writeGroups]
    · exact (only_hex (by decide) g).append (ih.cons (by decide))
    · exact some

theorem group_writeV6 (groups : List Nat) : Only isGroupChar (writeV6 groups) := by
  unfold writeV6
  dsimp only
  split
  · exact group_writeGroups groups
  · exact (group_writeGroups _).append
      (((group_writeGroups _).cons (by decide)).cons (by decide))

/-! ## Names -/

theorem name_punycodeDigits (bias k n : Nat) : Only isNameChar (Punycode.numberDigits bias k n) := by
  have digits : ∀ d < 36, isNameChar (Punycode.digit d) = true := by decide
  have bound (k : Nat) : 1 ≤ Punycode.limit k bias ∧ Punycode.limit k bias ≤ 26 := by
    unfold Punycode.limit
    omega
  induction k, n using Punycode.numberDigits.induct bias with
  | case1 k n _ last =>
    have limit := bound k
    rw [Punycode.numberDigits]
    rw [if_pos last]
    exact only_nil.cons (digits n (by omega))
  | case2 k n _ more ih =>
    have limit := bound k
    rw [Punycode.numberDigits]
    have below := Nat.mod_lt (n - Punycode.limit k bias)
      (show 0 < 36 - Punycode.limit k bias by omega)
    rw [if_neg more]
    exact ih.cons (digits _ (by omega))

namespace Punycode

theorem name_pass {plain m : Nat} {w : Writer} (out : Only isNameChar w.out) (c : Char) :
    Only isNameChar (w.pass plain m c).out := by
  unfold Writer.pass
  split
  · exact out
  split
  · exact out.append (name_punycodeDigits _ _ _)
  · exact out

theorem name_foldl {plain m : Nat} (label : List Char) {w : Writer} (out : Only isNameChar w.out) :
    Only isNameChar (label.foldl (Writer.pass plain m) w).out := by
  induction label generalizing w with
  | nil => exact out
  | cons c label ih => exact ih (name_pass out c)

theorem name_rounds (label : List Char) (plain : Nat) (points : List Nat) {n : Nat} {w : Writer}
    (out : Only isNameChar w.out) : Only isNameChar (Writer.rounds label plain points n w).out := by
  induction points generalizing n w with
  | nil => exact out
  | cons m points ih =>
    rw [Writer.rounds]
    exact ih (name_foldl label out)

theorem name_encode {label : List Char} (permitted : ∀ c ∈ label, isForbiddenInDomain c = false) :
    Only isNameChar (encode label) := by
  have plain : Only isNameChar (label.filter (·.toNat < 0x80)) := by
    intro c member
    obtain ⟨inside, ascii⟩ := List.mem_filter.1 member
    rw [isNameChar, isAscii, permitted c inside]
    simpa using ascii
  unfold encode
  dsimp only
  refine name_rounds label _ _ ?_
  dsimp only
  split
  · exact only_nil
  · exact plain.append (only_nil.cons (by decide))

end Punycode

theorem permitted_of_any {cs : List Char} (none : ¬ cs.any isForbiddenInDomain = true) :
    ∀ c ∈ cs, isForbiddenInDomain c = false := by
  simpa using none

theorem name_of_permitted {cs : List Char} (ascii : cs.all isAscii = true)
    (permitted : ∀ c ∈ cs, isForbiddenInDomain c = false) : Only isNameChar cs := by
  intro c member
  rw [isNameChar, List.all_eq_true.1 ascii c member, permitted c member]
  rfl

/-- The lower case of a character of a name is one. -/
theorem name_toLower {cs : List Char} (name : Only isNameChar cs) :
    Only isNameChar (cs.map Char.toLower) := by
  have letters : ∀ n < 26, isNameChar (Char.ofNat (n + 65)).toLower = true := by decide
  intro d member
  obtain ⟨c, source, rfl⟩ := List.mem_map.1 member
  by_cases upper : 65 ≤ c.toNat ∧ c.toNat ≤ 90
  · have small := letters (c.toNat - 65) (by omega)
    rwa [Nat.sub_add_cancel upper.1, Char.ofNat_toNat] at small
  · have same : c.toLower = c := dif_neg upper
    rw [same]
    exact name c source

theorem name_joinLabels {labels : List (List Char)} (each : ∀ l ∈ labels, Only isNameChar l) :
    Only isNameChar (joinLabels labels) := by
  induction labels with
  | nil => exact only_nil
  | cons label labels ih =>
    obtain ⟨own, later⟩ := List.forall_mem_cons.1 each
    cases labels with
    | nil =>
      rw [joinLabels, List.intercalate_singleton]
      exact own
    | cons second rest =>
      rw [joinLabels, List.intercalate_cons_cons]
      exact (own.append (only_nil.cons (by decide))).append (ih later)

theorem name_labelToAscii {label : List Char} (permitted : ∀ c ∈ label, isForbiddenInDomain c = false) :
    Only isNameChar (labelToAscii label) := by
  unfold labelToAscii
  split
  · next ascii => exact name_of_permitted ascii permitted
  · have mark : Only isNameChar punycodeMark := List.all_eq_true.1 (by decide)
    exact mark.append (Punycode.name_encode permitted)

theorem name_domainToAscii {bytes : List UInt8} {name : List Char}
    (read : domainToAscii? bytes = some name) : Only isNameChar name := by
  obtain ⟨cs, -, read⟩ := Option.bind_eq_some_iff.1 read
  split at read
  · next plain =>
    split at read
    · cases read
    · next permitted =>
      cases read
      exact name_toLower
        (name_of_permitted (Bool.and_eq_true_iff.1 plain).1 (permitted_of_any permitted))
  · unfold internationalToAscii? at read
    obtain ⟨replaced, -, read⟩ := Option.bind_eq_some_iff.1 read
    dsimp only at read
    split at read
    · cases read
    next permitted =>
    obtain ⟨meanings, -, read⟩ := Option.bind_eq_some_iff.1 read
    split at read
    · cases read
      refine name_joinLabels fun l member => ?_
      obtain ⟨label, own, rfl⟩ := List.mem_map.1 member
      exact name_labelToAscii fun c inside =>
        permitted_of_any permitted c (mem_of_mem_splitAt own inside).1
    · cases read

/-! ## Authorities -/

/-- A host is written as a name, or as an address between brackets. -/
def Host.InForm (host : Host) : Prop := Only isNameChar host.write ∨ Only isGroupChar host.write

theorem Host.InForm.smooth {host : Host} (form : host.InForm) : Only isSmooth host.write :=
  form.elim Only.smooth fun groups => groups.mono fun _ => isSmooth_of_isGroupChar

theorem inForm_readBracketed {cs : List Char} {host : Host} (read : readBracketed cs = .ok host) :
    host.InForm := by
  unfold readBracketed at read
  split at read
  · generalize readV6 _ = groups at read
    rcases groups with e | groups
    · cases read
    · cases read
      exact Or.inr (((group_writeV6 groups).cons (by decide)).append (only_nil.cons (by decide)))
  · cases read

theorem inForm_readHost {cs : List Char} {host : Host} (read : readHost cs = .ok host) :
    host.InForm := by
  unfold readHost at read
  split at read
  · exact inForm_readBracketed read
  split at read
  · cases read
  · cases read
  next name _ ascii =>
  split at read
  · generalize readV4 name = address at read
    rcases address with e | address
    · cases read
    · cases read
      exact Or.inl (name_writeV4 address)
  · cases read
    exact Or.inl (name_domainToAscii ascii)

/-- A character of a user name or a password, or the colon between them. -/
def isLoginChar (c : Char) : Bool := keepsUser c || c == ':'

theorem isSmooth_of_isLoginChar {c : Char} (login : isLoginChar c = true) : isSmooth c = true := by
  rcases Bool.or_eq_true_iff.1 login with kept | colon
  · simp only [keepsUser, keepsPath, keepsFragment, Bool.and_eq_true, decide_eq_true_eq] at kept
    simp [isSmooth, kept]
  · rw [eq_of_beq colon]
    decide

namespace Authority

/-- Who logs in, with the sign after it. -/
def login (a : Authority) : List Char :=
  if a.user.isEmpty && a.password.isNone then []
  else a.user ++ (a.password.elim [] (':' :: ·)) ++ ['@']

/-- The port, with the colon before it. -/
def portText (a : Authority) : List Char := a.port.elim [] fun p => ':' :: Decimal.ofNat p

theorem write_eq (a : Authority) : a.write = a.login ++ a.host.write ++ a.portText := rfl

/-- User name and password are encoded, and the host has its form. -/
structure InForm (a : Authority) : Prop where
  user : Only keepsUser a.user
  password : ∀ p, a.password = some p → Only keepsUser p
  host : a.host.InForm

variable {a : Authority} {kind : Char → Bool}

/-- Before the sign stand characters of a user name and a colon. -/
theorem InForm.login_cases (form : a.InForm) :
    a.login = [] ∨ ∃ user, a.login = user ++ ['@'] ∧ Only isLoginChar user := by
  have kept {cs : List Char} (user : Only keepsUser cs) : Only isLoginChar cs :=
    user.mono fun c own => by simp [isLoginChar, own]
  unfold login
  split
  · exact Or.inl rfl
  refine Or.inr ⟨_, rfl, (kept form.user).append ?_⟩
  cases given : a.password with
  | none => exact only_nil
  | some p => exact (kept (form.password p given)).cons (by decide)

theorem InForm.only_login (form : a.InForm) (each : ∀ c, isLoginChar c = true → kind c = true)
    (sign : kind '@' = true) : Only kind a.login := by
  rcases form.login_cases with none | ⟨user, whole, inside⟩
  · rw [none]
    exact only_nil
  · rw [whole]
    exact (inside.mono each).append (only_nil.cons sign)

theorem only_portText (digits : ∀ d < 10, kind (Decimal.digit d) = true) (colon : kind ':' = true) :
    Only kind a.portText := by
  unfold portText
  cases a.port with
  | none => exact only_nil
  | some port => exact Only.cons (Decimal.forall_mem_ofNat digits port) colon

theorem InForm.smooth (form : a.InForm) : Only isSmooth a.write := by
  rw [write_eq]
  exact ((form.only_login (fun _ => isSmooth_of_isLoginChar) (by decide)).append form.host.smooth).append
    (only_portText (by decide) (by decide))

end Authority

/-- Where an authority of a special scheme is read, so are its host and its user. -/
theorem readAuthority_parts {scheme cs rest : List Char} {last : Bool} {a : Authority}
    (special : isSpecial scheme = true) (read : readAuthority scheme last cs = .ok (a, rest)) :
    ∃ userChars hostChars, readUser userChars = (a.user, a.password) ∧
      readHost hostChars = .ok a.host := by
  unfold readAuthority at read
  rw [special] at read
  dsimp only at read
  generalize (splitUser? cs).getD ([], cs) = parts at read
  split at read
  · cases (show Except.error _ = Except.ok _ from read)
  split at read
  · cases (show Except.error _ = Except.ok _ from read)
  rw [if_pos rfl] at read
  obtain ⟨host, named, read⟩ := bind_eq_ok.1 read
  split at read
  · cases (show Except.error _ = Except.ok _ from read)
  split at read
  · obtain ⟨port, -, read⟩ := bind_eq_ok.1 read
    cases read
    exact ⟨parts.1, _, rfl, named⟩
  · obtain ⟨port, -, read⟩ := bind_eq_ok.1 read
    cases read
    exact ⟨parts.1, _, rfl, named⟩

theorem inForm_readAuthority {scheme cs rest : List Char} {last : Bool} {a : Authority}
    (special : isSpecial scheme = true) (read : readAuthority scheme last cs = .ok (a, rest)) :
    a.InForm := by
  obtain ⟨userChars, hostChars, user, host⟩ := readAuthority_parts special read
  obtain ⟨user, password⟩ := Prod.mk.inj user
  have encoded (cs : List Char) : Only keepsUser (Percent.encode keepsUser cs) :=
    only_encode (by decide) (by decide) cs
  refine ⟨user ▸ encoded _, fun p given => ?_, inForm_readHost host⟩
  rw [← password] at given
  split at given
  · cases given
  · cases given
    exact encoded _

/-! ## Whole URLs -/

/-- What is asked of the host of a URL: its path and its query. -/
def resource (u : Url) : List Char := u.path ++ u.query.elim [] ('?' :: ·)

/-- A URL of the web each part of which has its form. -/
structure InForm (u : Url) : Prop where
  web : u.isWeb = true
  authority : ∃ a, u.authority = some a ∧ a.InForm
  path : SettledPath u.path
  query : ∀ q, u.query = some q → Only (keepsQuery true) q
  fragment : ∀ f, u.fragment = some f → Only keepsFragment f

/-- The query that is split off is encoded. -/
theorem splitTail_query {scheme cs q : List Char} (special : isSpecial scheme = true)
    (split : (splitTail scheme cs).2.1 = some q) : Only (keepsQuery true) q := by
  unfold splitTail at split
  rw [special] at split
  dsimp only at split
  split at split
  · cases split
  · cases split
    exact only_encode (by decide) (by decide) _

theorem splitTail_fragment {scheme cs f : List Char} (split : (splitTail scheme cs).2.2 = some f) :
    Only keepsFragment f := by
  unfold splitTail at split
  dsimp only at split
  split at split
  · cases split
  · cases split
    exact only_encode (by decide) (by decide) _

/-- What is read as a URL of the web has its form. -/
theorem inForm_readChars {cs : List Char} {u : Url} (read : readChars cs = .ok u)
    (web : u.isWeb = true) : InForm u := by
  obtain ⟨-, path⟩ := settledPath_readChars read web
  obtain ⟨rest, tail, read⟩ := readWithAuthority_of_isWeb read web
  unfold readWithAuthority at read
  obtain ⟨⟨a, after⟩, authority, read⟩ := bind_eq_ok.1 read
  have special := isSpecial_of_isWeb web
  have same := Except.ok.inj read
  refine ⟨web, ⟨a, ?_, inForm_readAuthority special authority⟩, path, fun q given => ?_,
    fun f given => ?_⟩
  · rw [← same]
  · have tail_query : (splitTail u.scheme tail).2.1 = some q := by rw [← given, ← same]
    exact splitTail_query special tail_query
  · have tail_fragment : (splitTail u.scheme tail).2.2 = some f := by rw [← given, ← same]
    exact splitTail_fragment tail_fragment

/-- A URL of the web whose parts end where the marks for their ends are. -/
structure Clear (u : Url) : Prop where
  web : u.isWeb = true
  authority : ∃ a, u.authority = some a ∧ Unbroken a.write
  path : SettledPath u.path
  query : ∀ q, u.query = some q → '#' ∉ q

/-- What is read as a URL of the web is clear. -/
theorem clear_readChars {cs : List Char} {u : Url} (read : readChars cs = .ok u)
    (web : u.isWeb = true) : Clear u := by
  have form := inForm_readChars read web
  obtain ⟨a, place, authority⟩ := form.authority
  refine ⟨web, ⟨a, place, unbroken_of_smooth authority.smooth⟩, form.path, fun q given mark => ?_⟩
  exact absurd (form.query q given '#' mark) (by decide)

end ApprovalDesk.Url
