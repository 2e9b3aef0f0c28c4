import ApprovalDesk.Failure
import ApprovalDesk.Json.Record
import ApprovalDesk.Text.Blank
import ApprovalDesk.Http.Message

/-!
# What comes with a link

The query of a link names a request and a token, and the form that rejects a request gives a reason. A
query that gives one of the two twice cannot be read; a form that cannot be read gives no reason.
-/

namespace ApprovalDesk.Http

set_option autoImplicit false

open ApprovalDesk.Text

/-- The parameters of a link. -/
structure LinkParams where
  requestId : Option String
  token : Option String
  deriving DecidableEq, Repr

/-- The first name of a list that is given again after it was given before. -/
def firstRepeated (names : List String) : List String → List String → Option String
  | _, [] => none
  | seen, n :: rest =>
    if names.contains n && seen.contains n then some n else firstRepeated names (n :: seen) rest

namespace LinkParams

/-- The names of the parameters. -/
def names : List String := ["requestId", "token"]

/-- The parameters among the pairs of a query, or the name that is repeated first. -/
def ofPairs (pairs : List (String × String)) : Except String LinkParams :=
  match firstRepeated names [] (pairs.map (·.1)) with
  | some name => .error name
  | none => .ok { requestId := pairs.lookup "requestId", token := pairs.lookup "token" }

/-- A parameter that is there and not blank. -/
def present (value : Option String) : Option String := value.filter (!isBlankText ·)

/-- The id of the request and the token, both as they were sent. -/
def require (p : LinkParams) : Except Failure (String × String) :=
  match present p.requestId, present p.token with
  | some id, some token => .ok (id, token)
  | _, _ => .error (.invalid "Both requestId and token are required.")

open Json in
/-- Reads the parameters from a JSON value. -/
def decode : Decoder LinkParams := fun v => do
  let fs ← recordFields "LinkParams"
    [.required "requestId" (decodeOption decodeText),
     .required "token" (decodeOption decodeText)] v
  return {
    requestId := ← Json.optional fs "requestId" decodeText
    token := ← Json.optional fs "token" decodeText }

end LinkParams

/-- The name of the field with the reason. -/
def reasonField : String := "rejectionReason"

/-- The reason in a form, empty if there is none or more than one. -/
def reasonOfForm (body : List UInt8) : String :=
  let pairs := FormPairs.decode body
  match firstRepeated [reasonField] [] (pairs.map (·.1)) with
  | some _ => ""
  | none => (pairs.lookup reasonField).getD ""

/-- The reason that comes with a request, empty if its body is no form. -/
def reasonOf (r : Request) : String :=
  if (r.header? "content-type").any isFormType then
    (r.readableBody?.map reasonOfForm).getD ""
  else ""

open Json in
/-- Reads the form with the reason from a JSON value. -/
def decodeRejectionForm : Decoder String := fun v => do
  let fs ← recordFields "RejectionForm" [.defaulted reasonField decodeText] v
  defaulted fs reasonField "" decodeText

end ApprovalDesk.Http
