import ApprovalDesk.Text.Blank
import ApprovalDesk.Text.FormPairs
import ApprovalDesk.Url.Parser

/-!
# Links

The two links in the administrator's mail name a request and its token in their query, which is how
the desk knows both when a link is followed. A link that a user supplies is only shown if it leads to
the web.
-/

namespace ApprovalDesk

set_option autoImplicit false

open ApprovalDesk.Text

/-- The pair that names a request and its token in a query. -/
def linkPairs (requestId token : String) : List (String × String) :=
  [("requestId", requestId), ("token", token)]

/-- Drops the slashes at the end. -/
def dropEndSlashes (cs : List Char) : List Char := (cs.reverse.dropWhile (· == '/')).reverse

/-- Puts pairs after those in the query of a URL. -/
def Url.addPairs (u : Url) (pairs : List (String × String)) : Url :=
  { u with query := some (pairs.foldl FormPairs.append (u.query.getD [])) }

/-- The links with which a request is approved and rejected. -/
structure ApprovalLinks where
  approve : Url
  reject : Url
  deriving DecidableEq, Repr

namespace ApprovalLinks

/-- The last segment of the link to approve. -/
def approveEndpoint : String := "processApproval"

/-- The last segment of the link to reject. -/
def rejectEndpoint : String := "processRejection"

/-- The link to an endpoint below a base. -/
def link (base : Url) (endpoint requestId token : String) : Url :=
  (base.withPath (dropEndSlashes base.path ++ '/' :: endpoint.toList)).addPairs
    (linkPairs requestId token)

/-- The links below the address `baseUrl`. -/
def make (baseUrl requestId token : String) : Except Url.Error ApprovalLinks :=
  (Url.readChars (dropEndSlashes baseUrl.toList)).map fun base =>
    { approve := link base approveEndpoint requestId token
      reject := link base rejectEndpoint requestId token }

end ApprovalLinks

/-- The address of a link to what a user supplied: its URL if that is of the web, else `#`. -/
def safeHref (supplied : Option String) : String :=
  match supplied.map fun s => Url.read (trim s) with
  | some (.ok u) => if u.isWeb then u.write else "#"
  | _ => "#"

end ApprovalDesk
