import ApprovalDesk.Url.Domain
import ApprovalDesk.Url.Path

/-!
# Reading a URL

Blanks and control characters around the text and tabs and line ends inside it do not count. After the
scheme come the authority, if there is one, the path, the query after `?` and the fragment after `#`.
A special scheme needs a host, however many slashes come before it.
-/

namespace ApprovalDesk.Url

set_option autoImplicit false

open ApprovalDesk.Text

/-- A control character or a blank. -/
def isFrame (c : Char) : Bool := c.toNat ≤ 0x20

/-- The text without what stands around it. -/
def unframed (cs : List Char) : List Char :=
  ((cs.dropWhile isFrame).reverse.dropWhile isFrame).reverse

/-- A character of a scheme after its first letter. -/
def isSchemeChar (c : Char) : Bool := c.isAlphanum || c == '+' || c == '-' || c == '.'

/-- The scheme in lower case and what follows its colon. -/
def splitScheme? (cs : List Char) : Option (List Char × List Char) :=
  if (cs.head?.any Char.isAlpha) then
    match cs.dropWhile isSchemeChar with
    | ':' :: rest => some ((cs.takeWhile isSchemeChar).map Char.toLower, rest)
    | _ => none
  else none

/-! ## Host and port -/

/-- An ASCII character that no host may have. -/
def isForbiddenInHost (c : Char) : Bool := "\x00\t\n\r #/:<>?@[\\]^|".toList.contains c

/-- Reads an address between brackets. -/
def readBracketed (cs : List Char) : Except Error Host :=
  if cs.getLast? == some ']' then (readV6 (cs.drop 1).dropLast).map .v6 else .error .v6Address

/-- Reads the host of a special scheme: an address or a domain name, which may be percent-encoded. -/
def readHost (cs : List Char) : Except Error Host :=
  if cs.head? == some '[' then readBracketed cs
  else match domainToAscii? (Percent.decode (Utf8.encodeChars cs)) with
    | none => .error .domainName
    | some [] => .error .emptyHost
    | some name => if endsInNumber name then (readV4 name).map .v4 else .ok (.name name)

/-- Reads the host of any other scheme. -/
def readOpaqueHost (cs : List Char) : Except Error Host :=
  if cs.head? == some '[' then readBracketed cs
  else if cs.any isForbiddenInHost then .error .hostCharacter
  else .ok (.name (Percent.encode keepsOpaque cs))

/-- The host before the first colon that is not between brackets, and the rest. -/
def splitHost (inBrackets : Bool) : List Char → List Char × List Char
  | [] => ([], [])
  | c :: cs =>
    if c == ':' && !inBrackets then ([], c :: cs)
    else
      let (host, rest) := splitHost (c == '[' || (inBrackets && c != ']')) cs
      (c :: host, rest)

/-- Reads a port up to the end of the authority or a backslash; what is left is part of the path. -/
def readPort (scheme : List Char) (cs : List Char) : Except Error (Option Nat × List Char) :=
  let digits := cs.takeWhile Decimal.isDigit
  let rest := cs.dropWhile Decimal.isDigit
  let port := Decimal.toNat digits
  if 65535 < port then .error .port
  else if !rest.isEmpty && rest.head? != some '\\' then .error .port
  else
    let known := digits.isEmpty || defaultPort scheme == some port
    .ok (if known then none else some port, rest)

/-! ## Authority -/

/-- The user information before the last `@` of an authority, and the rest. -/
def splitUser? (cs : List Char) : Option (List Char × List Char) :=
  let after := (cs.reverse.takeWhile (· != '@')).reverse
  if after.length = cs.length then none
  else some (cs.take (cs.length - after.length - 1), after)

/-- User name and password in written form. -/
def readUser (cs : List Char) : List Char × Option (List Char) :=
  let password := (cs.dropWhile (· != ':')).drop 1
  (Percent.encode keepsUser (cs.takeWhile (· != ':')),
    if password.isEmpty then none else some (Percent.encode keepsUser password))

/-- Reads an authority, given what stands between its two slashes and its end; `last` says that
nothing comes after it. The characters that are left are part of the path. -/
def readAuthority (scheme : List Char) (last : Bool) (cs : List Char) :
    Except Error (Authority × List Char) := do
  let special := isSpecial scheme
  let (userChars, place) := (splitUser? cs).getD ([], cs)
  if (splitUser? cs).isSome && userChars.isEmpty && place.isEmpty && !last then throw .emptyHost
  let (user, password) := readUser userChars
  let (hostChars, rest) := splitHost false place
  if special && hostChars.isEmpty then throw .emptyHost
  let host ← if special then readHost hostChars else readOpaqueHost hostChars
  if hostChars.isEmpty && (!rest.isEmpty || !user.isEmpty || password.isSome) then throw .emptyHost
  let (port, rest) ← match rest with
    | [] => pure (none, [])
    | _ :: digits => readPort scheme digits
  return ({ user, password, host, port }, rest)

/-- The end of an authority. -/
def endsAuthority (special : Bool) (c : Char) : Bool :=
  c == '/' || c == '?' || c == '#' || (special && c == '\\')

/-! ## The whole -/

/-- The characters before the query and the fragment, and these two in written form. -/
def splitTail (scheme : List Char) (cs : List Char) :
    List Char × Option (List Char) × Option (List Char) :=
  let fragment := match cs.dropWhile (· != '#') with
    | [] => none
    | _ :: rest => some (Percent.encode keepsFragment (counted rest))
  let cs := cs.takeWhile (· != '#')
  let query := match cs.dropWhile (· != '?') with
    | [] => none
    | _ :: rest => some (Percent.encode (keepsQuery (isSpecial scheme)) (counted rest))
  (cs.takeWhile (· != '?'), query, fragment)

/-- Reads what follows the two slashes before an authority. -/
def readWithAuthority (scheme : List Char) (cs : List Char)
    (query fragment : Option (List Char)) : Except Error Url := do
  let ends := endsAuthority (isSpecial scheme)
  let after := cs.dropWhile (!ends ·)
  let last := after.isEmpty && query.isNone && fragment.isNone
  let (authority, rest) ← readAuthority scheme last (cs.takeWhile (!ends ·))
  let (path, _) := pathAfterAuthority scheme (rest ++ after)
  return { scheme, authority := some authority, dotted := false, path, query, fragment }

/-- The authority of a `file` URL, which is only a host. -/
def fileAuthority (host : Host) : Authority := ⟨[], none, host, none⟩

/-- A slash of either kind. -/
def endsFileHost (c : Char) : Bool := c == '/' || c == '\\'

/-- Reads the host of a `file` URL; this computer needs no name. -/
def readFileHost (cs : List Char) : Except Error Host :=
  if cs.isEmpty then .ok (.name [])
  else do
    let host ← readHost cs
    return if host = .name "localhost".toList then .name [] else host

/-- What follows the two slashes before the host of a `file` URL. -/
def afterSlashes? (cs : List Char) : Option (List Char) :=
  match cs.dropWhile isIgnored with
  | [] => none
  | a :: rest =>
    match rest.dropWhile isIgnored with
    | [] => none
    | b :: rest => if endsFileHost a && endsFileHost b then some rest else none

/-- Reads what follows the scheme of a `file` URL, given with the characters that do not count. -/
def readFile (cs : List Char) : Except Error Url := do
  let scheme := "file".toList
  let (cs, query, fragment) := splitTail scheme cs
  let make (host : Host) (path : List Char) : Url :=
    { scheme, authority := some (fileAuthority host), dotted := false, path, query, fragment }
  match afterSlashes? cs with
  | none => return make (.name []) (pathAfterAuthority scheme (cs.dropWhile isIgnored)).1
  | some rest =>
    let hostChars := counted (rest.takeWhile (!endsFileHost ·))
    if isDrive hostChars then return make (.name []) (resolvePath scheme rest).1
    let host ← readFileHost hostChars
    let (path, drive) := pathAfterAuthority scheme (rest.dropWhile (!endsFileHost ·))
    return make (if drive then .name [] else host) path

/-- Reads the URL in a list of characters. -/
def readChars (cs : List Char) : Except Error Url :=
  let cs := unframed cs
  match splitScheme? (counted cs) with
  | none => .error .relative
  | some (scheme, rest) =>
    let (rest, query, fragment) := splitTail scheme rest
    if isFile scheme then readFile ((cs.dropWhile (· != ':')).drop 1)
    else if isSpecial scheme then
      readWithAuthority scheme (rest.dropWhile fun c => c == '/' || c == '\\') query fragment
    else match rest with
      | '/' :: '/' :: rest => readWithAuthority scheme rest query fragment
      | '/' :: rest =>
        let (path, _) := resolvePath scheme rest
        .ok {
          scheme, authority := none, dotted := path.take 2 == ['/', '/'], path, query, fragment }
      | _ =>
        .ok {
          scheme, authority := none, dotted := false, path := Percent.encode keepsOpaque rest
          query, fragment }

/-- Reads a URL. -/
def read (s : String) : Except Error Url := readChars s.toList

/-! ## Changing a URL -/

/-- The URL with another path. -/
def withPath (u : Url) (path : List Char) : Url :=
  let written :=
    if u.isOpaque then
      match path with
      | '/' :: rest => "%2F".toList ++ Percent.encode keepsOpaque rest
      | _ => Percent.encode keepsOpaque path
    else (pathAfterAuthority u.scheme path).1
  { u with path := written }

end ApprovalDesk.Url
