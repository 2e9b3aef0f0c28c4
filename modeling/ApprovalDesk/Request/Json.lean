import ApprovalDesk.Json.Record
import ApprovalDesk.Request

/-!
# Requests in JSON

A request is written with all of its fields, `null` for those that it does not have. Readers accept
any order of the fields and do without those that may be absent.
-/

namespace ApprovalDesk

set_option autoImplicit false

open Json

def Status.toJson (s : Status) : Json := .str s.name

/-- The names of the statuses. -/
def Status.names : List (String × Status) :=
  [("pending", .pending), ("approved", .approved), ("rejected", .rejected)]

def Status.decode : Decoder Status := decodeVariant Status.names

def Channel.toJson (c : Channel) : Json := .str c.name

/-- The names of the channels. -/
def Channel.names : List (String × Channel) := [("email", .email), ("panel", .panel)]

def Channel.decode : Decoder Channel := decodeVariant Channel.names

/-- An instant in JSON. -/
def instantJson (t : Time.Instant) : Json := .str (Time.Timestamp.write t)

/-- A value, or `null` if there is none. -/
def optionJson {α : Type} (f : α → Json) (v : Option α) : Json := v.elim .null f

namespace Request

def toJson (r : Request) : Json :=
  .obj [
    ("requestId", .str r.id),
    ("userId", .str r.userId),
    ("userName", .str r.userName),
    ("userEmail", .str r.userEmail),
    ("purchaseEmail", optionJson .str r.purchaseEmail),
    ("proofFileUrl", optionJson .str r.proofFileUrl),
    ("status", r.status.toJson),
    ("createdAt", instantJson r.createdAt),
    ("approvedAt", optionJson instantJson r.approvedAt),
    ("rejectedAt", optionJson instantJson r.rejectedAt),
    ("processedAt", optionJson instantJson r.processedAt),
    ("rejectionReason", optionJson .str r.rejectionReason),
    ("processedVia", optionJson Channel.toJson r.processedVia),
    ("approvedBy", optionJson .str r.approvedBy),
    ("rejectedBy", optionJson .str r.rejectedBy)]

/-- The fields of a request in their own order. -/
def fields : List Field :=
  [.required "requestId" decodeText,
   .required "userId" decodeText,
   .required "userName" decodeText,
   .required "userEmail" decodeText,
   .required "purchaseEmail" (decodeOption decodeText),
   .required "proofFileUrl" (decodeOption decodeText),
   .required "status" Status.decode,
   .required "createdAt" decodeTimestamp,
   .required "approvedAt" (decodeOption decodeTimestamp),
   .required "rejectedAt" (decodeOption decodeTimestamp),
   .required "processedAt" (decodeOption decodeTimestamp),
   .required "rejectionReason" (decodeOption decodeText),
   .required "processedVia" (decodeOption Channel.decode),
   .required "approvedBy" (decodeOption decodeText),
   .required "rejectedBy" (decodeOption decodeText)]

def decode : Decoder Request := fun v => do
  let fs ← recordFields "CertificationRequest" fields v
  pure {
    id := ← required fs "requestId" decodeText
    userId := ← required fs "userId" decodeText
    userName := ← required fs "userName" decodeText
    userEmail := ← required fs "userEmail" decodeText
    purchaseEmail := ← optional fs "purchaseEmail" decodeText
    proofFileUrl := ← optional fs "proofFileUrl" decodeText
    status := ← required fs "status" Status.decode
    createdAt := ← required fs "createdAt" decodeTimestamp
    approvedAt := ← optional fs "approvedAt" decodeTimestamp
    rejectedAt := ← optional fs "rejectedAt" decodeTimestamp
    processedAt := ← optional fs "processedAt" decodeTimestamp
    rejectionReason := ← optional fs "rejectionReason" decodeText
    processedVia := ← optional fs "processedVia" Channel.decode
    approvedBy := ← optional fs "approvedBy" decodeText
    rejectedBy := ← optional fs "rejectedBy" decodeText }

end Request

namespace Submission

/-- The fields of a submission in their own order. -/
def fields : List Field :=
  [.defaulted "userId" decodeText,
   .defaulted "userName" decodeText,
   .defaulted "userEmail" decodeText,
   .required "purchaseEmail" (decodeOption decodeText),
   .required "proofFileUrl" (decodeOption decodeText)]

/-- The names of the fields. -/
def fieldNames : List String := fields.map (·.name)

/-- Reads a submission; a text that is not given counts as empty. -/
def decode : Decoder Submission := fun v => do
  let fs ← recordFields "NewCertificationRequest" fields v
  pure {
    userId := ← defaulted fs "userId" "" decodeText
    userName := ← defaulted fs "userName" "" decodeText
    userEmail := ← defaulted fs "userEmail" "" decodeText
    purchaseEmail := ← optional fs "purchaseEmail" decodeText
    proofFileUrl := ← optional fs "proofFileUrl" decodeText }

end Submission

end ApprovalDesk
