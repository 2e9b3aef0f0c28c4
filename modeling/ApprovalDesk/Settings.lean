/-!
# Settings of the workflow

The addresses and the validity that the workflow needs at run time.
-/

namespace ApprovalDesk

set_option autoImplicit false

/-- What the workflow is set up with. -/
structure Settings where
  senderAddress : String
  adminRecipient : String
  /-- How long a token is valid, in milliseconds. -/
  tokenTtl : Int
  publicBaseUrl : String
  /-- The address of a request in the admin console, with a place for its id. -/
  adminConsoleUrl : Option String
  deriving DecidableEq, Repr

/-- Puts `value` in place of every occurrence of `pattern`, from left to right; an empty pattern
occurs nowhere. -/
def replaceAll (pattern value : List Char) (cs : List Char) : List Char :=
  match cs with
  | [] => []
  | c :: rest =>
    if pattern.isEmpty then c :: rest
    else if pattern.isPrefixOf (c :: rest) then
      value ++ replaceAll pattern value (rest.drop (pattern.length - 1))
    else c :: replaceAll pattern value rest
termination_by cs.length
decreasing_by all_goals simp; try omega

namespace Settings

/-- How long a token is valid, in whole days. -/
def ttlDays (s : Settings) : Int := s.tokenTtl.tdiv 86400000

/-- The place for the id in the address of the admin console. -/
def idPlace : String := "\x7brequest_id\x7d"

/-- The address of a request in the admin console. -/
def consoleLink (s : Settings) (requestId : String) : Option String :=
  s.adminConsoleUrl.map fun url =>
    String.ofList (replaceAll idPlace.toList requestId.toList url.toList)

end Settings

end ApprovalDesk
