import ApprovalDesk.Request.Json

/-!
# Notifications

What a user is told in the app once their request has been decided. A pending request gives rise to
none.
-/

namespace ApprovalDesk

set_option autoImplicit false

open Json Time

/-- A notification in the app. -/
structure Notification where
  id : Uuid
  userId : String
  kind : String
  title : String
  message : String
  read : Bool
  actionType : String
  metadata : Json
  createdAt : Instant

namespace Notification

/-- The notification about a decided request. -/
def forDecision (r : Request) (id : Uuid) (now : Instant) : Option Notification :=
  let make (kind title message actionType : String) : Option Notification :=
    some {
      id, userId := r.userId, kind, title, message, read := false, actionType
      metadata := .obj [
        ("certificationStatus", r.status.toJson),
        ("rejectionReason", optionJson .str r.rejectionReason)]
      createdAt := now }
  match r.status with
  | .pending => none
  | .approved =>
    make "certification_approved" "Certification approved!"
      ("Congratulations! Your spiritual certification has been approved. " ++
        "The badge is now visible on your profile.")
      "view_profile"
  | .rejected =>
    make "certification_rejected" "Certification not approved"
      ("Your certification request was not approved. Reason: " ++
        r.rejectionReason.getD "Not specified")
      "retry_certification"

def toJson (n : Notification) : Json :=
  .obj [
    ("id", .str n.id.write),
    ("userId", .str n.userId),
    ("type", .str n.kind),
    ("title", .str n.title),
    ("message", .str n.message),
    ("read", .bool n.read),
    ("actionType", .str n.actionType),
    ("metadata", n.metadata),
    ("createdAt", instantJson n.createdAt)]

/-- The fields of a notification in their own order. -/
def fields : List Field :=
  [.required "id" decodeUuid,
   .required "userId" decodeText,
   .required "type" decodeText,
   .required "title" decodeText,
   .required "message" decodeText,
   .required "read" decodeBool,
   .required "actionType" decodeText,
   .required "metadata" .ok,
   .required "createdAt" decodeTimestamp]

def decode : Decoder Notification := fun v => do
  let fs ← recordFields "Notification" fields v
  pure {
    id := ← required fs "id" decodeUuid
    userId := ← required fs "userId" decodeText
    kind := ← required fs "type" decodeText
    title := ← required fs "title" decodeText
    message := ← required fs "message" decodeText
    read := ← required fs "read" decodeBool
    actionType := ← required fs "actionType" decodeText
    metadata := ← required fs "metadata" .ok
    createdAt := ← required fs "createdAt" decodeTimestamp }

end Notification

end ApprovalDesk
