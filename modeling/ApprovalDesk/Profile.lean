import ApprovalDesk.Request.Json

/-!
# User profiles

Whether a user carries the certification badge, and since when.
-/

namespace ApprovalDesk

set_option autoImplicit false

open Json Time

/-- The certification badge on a user's profile. -/
structure Profile where
  userId : String
  certified : Bool
  certifiedAt : Option Instant
  deriving DecidableEq, Repr

namespace Profile

def toJson (p : Profile) : Json :=
  .obj [
    ("userId", .str p.userId),
    ("spirituallyCertified", .bool p.certified),
    ("certifiedAt", optionJson instantJson p.certifiedAt)]

/-- The fields of a profile in their own order. -/
def fields : List Field :=
  [.required "userId" decodeText,
   .required "spirituallyCertified" decodeBool,
   .required "certifiedAt" (decodeOption decodeTimestamp)]

def decode : Decoder Profile := fun v => do
  let fs ← recordFields "UserProfile" fields v
  pure {
    userId := ← required fs "userId" decodeText
    certified := ← required fs "spirituallyCertified" decodeBool
    certifiedAt := ← optional fs "certifiedAt" decodeTimestamp }

end Profile

end ApprovalDesk
