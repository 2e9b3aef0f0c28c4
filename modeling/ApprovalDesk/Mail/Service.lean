import ApprovalDesk.Dialogue
import ApprovalDesk.Http.MediaType
import ApprovalDesk.Json.Writer
import ApprovalDesk.Mail.Letter
import ApprovalDesk.Text.Charset
import ApprovalDesk.Url.Parser

/-!
# The mail service

A letter is sent with one POST of a JSON object to a service on the web, with a key in a header. The
service has taken it if it answers with a status from 200 to 299; the text of any other answer is
passed on. An answer that only announces another one does not count.
-/

namespace ApprovalDesk.MailService

set_option autoImplicit false

open ApprovalDesk.Text

/-- How the service is reached. -/
structure Access where
  url : String
  key : String
  deriving DecidableEq, Repr

/-- A request to the service, as it arrives there. -/
structure Request where
  url : Url
  method : String
  path : String
  authorization : String
  contentType : String
  body : String
  deriving DecidableEq, Repr

/-- An answer of the service. -/
structure Response where
  status : Nat
  contentType : Option String
  /-- The body, unless it breaks off. -/
  body : Option (List UInt8)
  deriving DecidableEq, Repr

/-! ## The request -/

/-- A letter as the service expects it. -/
def letterJson (l : Letter) : Json :=
  .obj [
    ("from", .str l.sender),
    ("to", .arr [.str l.recipient]),
    ("subject", .str l.subject),
    ("html", .str l.html)]

/-- A character that a header may have. -/
def isHeaderChar (c : Char) : Bool := (0x20 ≤ c.toNat && c.toNat != 0x7F) || c == '\t'

/-- The value of a header as it arrives, without blanks at its end. -/
def arriving (value : String) : String :=
  let isBlank (c : Char) : Bool := c == ' ' || c == '\t'
  String.ofList (value.toList.reverse.dropWhile isBlank).reverse

/-- The address of the service without slashes at its end. -/
def address (a : Access) : List Char := (a.url.toList.reverse.dropWhile (· == '/')).reverse

/-- The path of a request to a URL, with the query. -/
def requestPath (u : Url) : String := String.ofList (u.path ++ u.query.elim [] ('?' :: ·))

/-- The URL without the user information, which is no part of the address of a request. -/
def withoutUser (u : Url) : Url :=
  { u with authority := u.authority.map fun a => { a with user := [], password := none } }

/-- A character that the host of a URL may have, but not that of a request. -/
def isBarred (c : Char) : Bool := c == '"' || c == '`' || c == '{' || c == '}'

/-- The greatest length of the address of a request. -/
def maxAddressLength : Nat := 65534

/-- A request can be made to the URL. -/
def isUsable (u : Url) : Bool :=
  u.isWeb && u.authority.all (fun a => !a.host.write.any isBarred) &&
    (withoutUser u).chars.length ≤ maxAddressLength

/-- The request that sends a letter; there is none if the address or the key cannot be used. -/
def request? (a : Access) (l : Letter) : Option Request :=
  match Url.readChars (address a) with
  | .error _ => none
  | .ok url =>
    if isUsable url && a.key.toList.all isHeaderChar then
      some {
        url
        method := "POST"
        path := requestPath url
        authorization := arriving ("Bearer " ++ a.key)
        contentType := "application/json"
        body := (letterJson l).write }
    else none

/-! ## The answer -/

/-- A character of visible ASCII, a blank or a tab. -/
def isPlainChar (c : Char) : Bool := (0x20 ≤ c.toNat && c.toNat < 0x7F) || c == '\t'

/-- The character set of an answer; UTF-8 if it names none that is known. -/
def Response.charset (r : Response) : Charset :=
  let label := do
    let contentType ← r.contentType
    if !contentType.toList.all isPlainChar then failure
    let mediaType ← Http.MediaType.read? contentType.toList
    mediaType.parameters.lookup "charset".toList
  (label.bind Charset.ofLabel?).getD .utf8

/-- An answer of this status ends the exchange. The other ones below 200 announce it, and none has more
than three digits. -/
def isFinal (status : Nat) : Bool := status == 101 || (200 ≤ status && status < 1000)

/-- An answer of this status has no body. -/
def isBodiless (status : Nat) : Bool := status == 101 || status == 204 || status == 304

/-- The text of an answer. -/
def Response.text (r : Response) : String :=
  if isBodiless r.status then "" else r.body.elim "Unknown error" r.charset.decode

/-- The service has taken the letter. -/
def Response.isSuccess (r : Response) : Bool := 200 ≤ r.status && r.status < 300

/-- What an answer means; there may be none. -/
def outcome (answer : Option Response) : Except MailError Unit :=
  match answer.filter (isFinal ·.status) with
  | none => .error .unreachable
  | some r => if r.isSuccess then .ok () else .error (.refused r.status r.text)

/-! ## The exchange -/

/-- Requests to the service, one after another, each with what is done for its answer. -/
abbrev Exchange := Dialogue Request fun _ => Option Response

/-- Sends a letter. -/
def sending (a : Access) (l : Letter) : Exchange (Except MailError Unit) :=
  match request? a l with
  | none => .done (.error .unreachable)
  | some r => .ask r fun answer => .done (outcome answer)

/-- A service: what it answers to a request after the requests that it had before, if it does. -/
abbrev Service := List Request → Request → Option Response

/-- A service that has had some requests is asked once more. -/
def serve (service : Service) (r : Request) (had : List Request) :
    Except Crash (Option Response) × List Request := (.ok (service had r), had ++ [r])

/-- Sends a letter to a service: what becomes of it, and the requests that the service has had then. -/
def send (a : Access) (service : Service) (l : Letter) :
    Except Crash (Except MailError Unit) × List Request := (sending a l).run (serve service) []

end ApprovalDesk.MailService
