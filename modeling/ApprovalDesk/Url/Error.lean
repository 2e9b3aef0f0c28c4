/-!
# Why a text is no URL
-/

namespace ApprovalDesk.Url

set_option autoImplicit false

/-- Why a text is no URL. -/
inductive Error where
  /-- There is no scheme, and nothing that the text could be relative to. -/
  | relative
  | emptyHost
  | port
  | v4Address
  | v6Address
  /-- A host that is no domain name. -/
  | domainName
  /-- A character that no host may have. -/
  | hostCharacter
  deriving DecidableEq, Repr

/-- The wording of an error. -/
def Error.message : Error → String
  | .relative => "relative URL without a base"
  | .emptyHost => "empty host"
  | .port => "invalid port number"
  | .v4Address => "invalid IPv4 address"
  | .v6Address => "invalid IPv6 address"
  | .domainName => "invalid international domain name"
  | .hostCharacter => "invalid domain character"

end ApprovalDesk.Url
