import ApprovalDesk.Text.Percent
import ApprovalDesk.Url.Address

/-!
# URLs

The parts of a URL in the form in which they are written. In every part the characters that could end
it, and all that are not visible ASCII, are percent-encoded; which others are depends on the part.
-/

namespace ApprovalDesk

set_option autoImplicit false

open ApprovalDesk.Text

/-- The host of a URL. -/
inductive Url.Host where
  /-- A name in its written form, which may be empty. -/
  | name (text : List Char)
  /-- An IPv4 address. -/
  | v4 (address : Nat)
  /-- The groups of an IPv6 address. -/
  | v6 (groups : List Nat)
  deriving DecidableEq, Repr

/-- What a URL names as the place of a resource, with user name and password in written form; a port
is left out when it is the one that the scheme implies. -/
structure Url.Authority where
  user : List Char
  password : Option (List Char)
  host : Url.Host
  port : Option Nat
  deriving DecidableEq, Repr

/-- A URL. -/
structure Url where
  scheme : List Char
  authority : Option Url.Authority
  /-- Puts `/.` before a path that begins with `//` where there is no authority. -/
  dotted : Bool
  path : List Char
  query : Option (List Char)
  fragment : Option (List Char)
  deriving DecidableEq, Repr

namespace Url

/-! ## Which characters stand for themselves -/

/-- A character that is no control character. -/
def keepsOpaque (c : Char) : Bool := 0x20 ≤ c.toNat && c.toNat < 0x7F

/-- A character of a fragment. -/
def keepsFragment (c : Char) : Bool :=
  0x20 < c.toNat && c.toNat < 0x7F && c != '"' && c != '<' && c != '>' && c != '`'

/-- A character of a query; a special scheme has the apostrophe encoded too. -/
def keepsQuery (special : Bool) (c : Char) : Bool :=
  0x20 < c.toNat && c.toNat < 0x7F && c != '"' && c != '#' && c != '<' && c != '>' &&
    !(special && c == '\'')

/-- A character of a path. -/
def keepsPath (c : Char) : Bool :=
  keepsFragment c && c != '#' && c != '?' && c != '{' && c != '}'

/-- A character of a user name or password. -/
def keepsUser (c : Char) : Bool :=
  keepsPath c && c != '/' && c != ':' && c != ';' && c != '=' && c != '@' && c != '[' &&
    c != '\\' && c != ']' && c != '^' && c != '|'

/-! ## Schemes -/

/-- The port that a scheme implies. -/
def defaultPort (scheme : List Char) : Option Nat :=
  if scheme = "http".toList ∨ scheme = "ws".toList then some 80
  else if scheme = "https".toList ∨ scheme = "wss".toList then some 443
  else if scheme = "ftp".toList then some 21
  else none

def isFile (scheme : List Char) : Bool := scheme == "file".toList

/-- A scheme whose URLs name a host and have a path of segments. -/
def isSpecial (scheme : List Char) : Bool := (defaultPort scheme).isSome || isFile scheme

/-! ## The written form -/

def Host.write : Host → List Char
  | .name text => text
  | .v4 address => writeV4 address
  | .v6 groups => '[' :: writeV6 groups ++ [']']

def Authority.write (a : Authority) : List Char :=
  let user :=
    if a.user.isEmpty && a.password.isNone then []
    else a.user ++ (a.password.elim [] (':' :: ·)) ++ ['@']
  user ++ a.host.write ++ a.port.elim [] fun p => ':' :: Decimal.ofNat p

/-- What stands before the query. -/
def writeBase (u : Url) : List Char :=
  u.scheme ++ ':' :: u.authority.elim (if u.dotted then ['/', '.'] else []) (fun a => '/' :: '/' :: a.write) ++
    u.path

/-- The characters of a URL. -/
def chars (u : Url) : List Char :=
  u.writeBase ++ u.query.elim [] ('?' :: ·) ++ u.fragment.elim [] ('#' :: ·)

/-- A URL as text. -/
def write (u : Url) : String := String.ofList u.chars

/-- A URL of the web. -/
def isWeb (u : Url) : Bool := u.scheme == "http".toList || u.scheme == "https".toList

/-- A URL whose path is a text of its own, without segments. -/
def isOpaque (u : Url) : Bool := u.authority.isNone && !u.dotted && u.path.head? != some '/'

end Url

end ApprovalDesk
