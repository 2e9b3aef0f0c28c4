import ApprovalDesk.Url.Error
import ApprovalDesk.Text.Decimal

/-!
# Letters

A mail with an HTML body, and why it may not reach its recipient.
-/

namespace ApprovalDesk

set_option autoImplicit false

open ApprovalDesk.Text

/-- A mail. -/
structure Letter where
  sender : String
  recipient : String
  subject : String
  html : String
  deriving DecidableEq, Repr

/-- Why a mail was not sent. -/
inductive MailError where
  /-- The links in it cannot be made. -/
  | link (cause : Url.Error)
  /-- The mail service refused it. -/
  | refused (status : Nat) (message : String)
  /-- The mail service cannot be asked. -/
  | unreachable
  deriving DecidableEq, Repr

/-- The wording of an error. -/
def MailError.message : MailError → String
  | .link cause => "Invalid link: " ++ cause.message
  | .refused status message => "Mail API error (HTTP " ++ Decimal.text status ++ "): " ++ message
  | .unreachable => "HTTP request failed"

end ApprovalDesk
