import ApprovalDesk.Request.Json

/-!
# The audit log

An entry for every decided request: what was done, by whom, over which channel and why.
-/

namespace ApprovalDesk

set_option autoImplicit false

open Json Time

/-- An entry of the audit log. -/
structure AuditEntry where
  id : Uuid
  requestId : String
  userId : String
  userName : String
  action : String
  performedBy : Option String
  processedVia : Option Channel
  rejectionReason : Option String
  metadata : Json
  timestamp : Instant

namespace AuditEntry

/-- The entry about a decided request; a pending request gives rise to none. -/
def forDecision (r : Request) (id : Uuid) (now : Instant) : Option AuditEntry :=
  let make (action : String) : Option AuditEntry :=
    some {
      id, requestId := r.id, userId := r.userId, userName := r.userName, action
      performedBy := r.processedBy
      processedVia := r.processedVia
      rejectionReason := r.rejectionReason
      metadata := .obj [("status", r.status.toJson)]
      timestamp := now }
  match r.status with
  | .pending => none
  | .approved => make "certification_approved"
  | .rejected => make "certification_rejected"

def toJson (e : AuditEntry) : Json :=
  .obj [
    ("id", .str e.id.write),
    ("requestId", .str e.requestId),
    ("userId", .str e.userId),
    ("userName", .str e.userName),
    ("action", .str e.action),
    ("performedBy", optionJson .str e.performedBy),
    ("processedVia", optionJson Channel.toJson e.processedVia),
    ("rejectionReason", optionJson .str e.rejectionReason),
    ("metadata", e.metadata),
    ("timestamp", instantJson e.timestamp)]

/-- The fields of an entry in their own order. -/
def fields : List Field :=
  [.required "id" decodeUuid,
   .required "requestId" decodeText,
   .required "userId" decodeText,
   .required "userName" decodeText,
   .required "action" decodeText,
   .required "performedBy" (decodeOption decodeText),
   .required "processedVia" (decodeOption Channel.decode),
   .required "rejectionReason" (decodeOption decodeText),
   .required "metadata" .ok,
   .required "timestamp" decodeTimestamp]

def decode : Decoder AuditEntry := fun v => do
  let fs ← recordFields "AuditLogEntry" fields v
  pure {
    id := ← required fs "id" decodeUuid
    requestId := ← required fs "requestId" decodeText
    userId := ← required fs "userId" decodeText
    userName := ← required fs "userName" decodeText
    action := ← required fs "action" decodeText
    performedBy := ← optional fs "performedBy" decodeText
    processedVia := ← optional fs "processedVia" Channel.decode
    rejectionReason := ← optional fs "rejectionReason" decodeText
    metadata := ← required fs "metadata" .ok
    timestamp := ← required fs "timestamp" decodeTimestamp }

end AuditEntry

end ApprovalDesk
