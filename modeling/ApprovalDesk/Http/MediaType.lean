/-!
# Media types

The content type of a message, `type/subtype` with parameters after semicolons, and what a caller
accepts in an answer.
-/

namespace ApprovalDesk.Http

set_option autoImplicit false

/-- A character of a name in a media type. -/
def isTokenChar (c : Char) : Bool := c.isAlphanum || "!#$%&'*+-.^_`|~".toList.contains c

/-- A character between quotes. -/
def isQuotedChar (c : Char) : Bool := 31 < c.toNat && c.toNat != 127

/-- A quoted value up to its closing quote, as it is written, and the rest; `first` says that the
value has no character yet, which it has to have. -/
def quotedValue? (first : Bool) : List Char → Option (List Char × List Char)
  | [] => none
  | '\\' :: c :: rest =>
    if isQuotedChar c then (quotedValue? false rest).map fun p => ('\\' :: c :: p.1, p.2) else none
  | c :: rest =>
    if c == '"' && !first then some ([], rest)
    else if isQuotedChar c && c != '\\' then (quotedValue? false rest).map fun p => (c :: p.1, p.2)
    else none

/-- The value of a parameter and the rest, which is empty or begins with a semicolon. -/
def parameterValue? (cs : List Char) : Option (List Char × List Char) :=
  match cs with
  | '"' :: rest =>
    (quotedValue? true rest).bind fun p =>
      let after := p.2.dropWhile (· == ' ')
      if after.isEmpty || after.head? == some ';' then some (p.1, after) else none
  | _ =>
    let value := cs.takeWhile isTokenChar
    let after := cs.dropWhile isTokenChar
    if after.isEmpty || (after.head? == some ';' && !value.isEmpty) then some (value, after)
    else none

theorem length_dropWhile_le (p : Char → Bool) (cs : List Char) :
    (cs.dropWhile p).length ≤ cs.length := (List.dropWhile_suffix p).length_le

theorem quotedValue?_length {first : Bool} {cs : List Char} {p : List Char × List Char}
    (h : quotedValue? first cs = some p) : p.2.length ≤ cs.length := by
  fun_induction quotedValue? first cs generalizing p with
  | case1 => simp at h
  | case2 first c rest hc ih =>
    obtain ⟨q, hq, rfl⟩ := Option.map_eq_some_iff.1 h
    have := ih hq
    simp only [List.length_cons]
    omega
  | case3 => simp at h
  | case4 first c rest =>
    simp only [Option.some.injEq] at h
    simp [← h]
  | case5 first c rest _ _ _ ih =>
    obtain ⟨q, hq, rfl⟩ := Option.map_eq_some_iff.1 h
    have := ih hq
    simp only [List.length_cons]
    omega
  | case6 => simp at h

theorem parameterValue?_length {cs : List Char} {p : List Char × List Char}
    (h : parameterValue? cs = some p) : p.2.length ≤ cs.length := by
  unfold parameterValue? at h
  split at h
  · obtain ⟨q, hq, hp⟩ := Option.bind_eq_some_iff.1 h
    have hlen := quotedValue?_length hq
    have hdrop := length_dropWhile_le (· == ' ') q.2
    simp only at hp
    split at hp
    · simp only [Option.some.injEq] at hp
      subst hp
      simp only [List.length_cons]
      omega
    · simp at hp
  · have hdrop := length_dropWhile_le isTokenChar cs
    simp only at h
    split at h
    · simp only [Option.some.injEq] at h
      subst h
      exact hdrop
    · simp at h

/-- Parameters with their values, each after a semicolon; a semicolon without one may come last. -/
def parameters? (cs : List Char) : Option (List (List Char × List Char)) :=
  match cs with
  | [] => some []
  | ';' :: rest =>
    match _h : (rest.dropWhile (· == ' ')).dropWhile isTokenChar with
    | '=' :: value =>
      match _hv : parameterValue? value with
      | some (v, next) =>
        let name := (rest.dropWhile (· == ' ')).takeWhile isTokenChar
        if name.isEmpty then none
        else (parameters? next).map ((name.map Char.toLower, v) :: ·)
      | none => none
    | _ => if (rest.dropWhile (· == ' ')).isEmpty then some [] else none
  | _ => none
termination_by cs.length
decreasing_by
  have h1 := parameterValue?_length _hv
  have h2 := length_dropWhile_le (· == ' ') rest
  have h3 := length_dropWhile_le isTokenChar (rest.dropWhile (· == ' '))
  rw [_h] at h3
  simp only [List.length_cons] at *
  omega

/-- A media type, in lower case but for the values of its parameters; a suffix of the subtype comes
after its last plus. -/
structure MediaType where
  type : List Char
  subtype : List Char
  suffix : Option (List Char)
  parameters : List (List Char × List Char)
  deriving DecidableEq, Repr

namespace MediaType

/-- The subtype before its last plus, and the suffix after it. A plus that comes first is no mark of a
suffix. -/
def splitSuffix (cs : List Char) : List Char × Option (List Char) :=
  let suffix := (cs.reverse.takeWhile (· != '+')).reverse
  let before := cs.take (cs.length - suffix.length - 1)
  if before.isEmpty then (cs, none) else (before, some suffix)

/-- Reads a media type. -/
def read? (cs : List Char) : Option MediaType :=
  let type := cs.takeWhile isTokenChar
  match cs.dropWhile isTokenChar with
  | '/' :: rest =>
    let name := rest.takeWhile isTokenChar
    let after := rest.dropWhile isTokenChar
    if type.isEmpty || (name.isEmpty && !after.isEmpty) then none
    else
      let (subtype, suffix) := splitSuffix (name.map Char.toLower)
      (parameters? after).map fun parameters =>
        { type := type.map Char.toLower, subtype, suffix, parameters }
  | _ => none

/-- JSON, or a format that builds on it. -/
def isJson (m : MediaType) : Bool :=
  m.type == "application".toList &&
    (m.subtype == "json".toList || m.suffix == some "json".toList)

end MediaType

/-- The beginning of the content type of a form. -/
def formType : String := "application/x-www-form-urlencoded"

/-- The content type of a form. -/
def isFormType (contentType : List Char) : Bool := formType.toList.isPrefixOf contentType

/-- What an answer looks like. -/
inductive Format where
  | html
  | json
  deriving DecidableEq, Repr

/-- `pattern` stands somewhere in the text. -/
def occurs (pattern : List Char) : List Char → Bool
  | [] => pattern.isEmpty
  | c :: cs => pattern.isPrefixOf (c :: cs) || occurs pattern cs

/-- Callers that name JSON but not HTML get JSON, all others get HTML. -/
def Format.ofAccept (accept : Option (List Char)) : Format :=
  match accept with
  | none => .html
  | some cs =>
    if occurs "application/json".toList cs && !occurs "text/html".toList cs then .json else .html

end ApprovalDesk.Http
