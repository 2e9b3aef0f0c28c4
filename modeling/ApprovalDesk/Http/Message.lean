import ApprovalDesk.Json.Writer
import ApprovalDesk.Text.FormPairs
import ApprovalDesk.Http.MediaType

/-!
# HTTP messages

A request as it comes in, with its target, headers and body, and the answer to it. A header that is
not visible ASCII counts as absent where its text matters.
-/

namespace ApprovalDesk.Http

set_option autoImplicit false

open ApprovalDesk.Text

/-- A request. -/
structure Request where
  method : String
  /-- Path and query, perhaps after scheme and host. -/
  target : String
  headers : List (String × List UInt8)
  body : List UInt8
  deriving DecidableEq, Repr

/-- An answer. -/
structure Response where
  status : Nat
  contentType : Option String
  /-- The methods that the path has. -/
  allow : Option String
  body : String
  deriving DecidableEq, Repr

namespace Request

/-- The target without scheme, host and fragment. -/
def localTarget (r : Request) : List Char :=
  let cs := r.target.toList.takeWhile (· != '#')
  if cs.head? == some '/' || cs == ['*'] then cs
  else
    let rest := match cs.dropWhile (· != ':') with
      | ':' :: '/' :: '/' :: rest => rest
      | _ => cs
    rest.dropWhile fun c => c != '/' && c != '?'

/-- The path, as it was sent. -/
def path (r : Request) : List Char :=
  let path := r.localTarget.takeWhile (· != '?')
  if path.isEmpty then ['/'] else path

/-- The bytes of the query, as they were sent; no query counts as an empty one. -/
def query (r : Request) : List UInt8 :=
  Utf8.encodeChars ((r.localTarget.dropWhile (· != '?')).drop 1)

/-- A byte of a header that counts as text. -/
def isVisible (b : UInt8) : Bool := b == 9 || (0x20 ≤ b && b < 0x7F)

/-- The text of the first header with the name, in lower case. -/
def header? (r : Request) (name : String) : Option (List Char) :=
  match r.headers.find? fun h => h.1.toList.map Char.toLower == name.toList with
  | some (_, value) =>
    if value.all isVisible then some (value.map fun b => Char.ofNat b.toNat) else none
  | none => none

/-- What the caller accepts. -/
def format (r : Request) : Format := Format.ofAccept (r.header? "accept")

/-- The longest body that is read. -/
def bodyLimit : Nat := 2097152

/-- The body, unless it is too long. -/
def readableBody? (r : Request) : Option (List UInt8) :=
  if r.body.length ≤ bodyLimit then some r.body else none

end Request

namespace Response

/-- An answer without a body. -/
def bare (status : Nat) : Response := ⟨status, none, none, ""⟩

def text (status : Nat) (body : String) : Response :=
  ⟨status, some "text/plain; charset=utf-8", none, body⟩

def html (status : Nat) (body : String) : Response :=
  ⟨status, some "text/html; charset=utf-8", none, body⟩

def json (status : Nat) (body : Json) : Response :=
  ⟨status, some "application/json", none, body.write⟩

end Response

end ApprovalDesk.Http
