import ApprovalDesk.Database.Script
import ApprovalDesk.Store.Basic

/-!
# The store in a relational database

Every call to the store as a script. A decision locks the row of the request, then the row of the
token, so that two decisions about one request come one after the other.
-/

namespace ApprovalDesk.Database

set_option autoImplicit false

open ApprovalDesk.Time

/-! ## Records as rows -/

def statusValue (s : Status) : Value := .text s.name

def channelValue (c : Channel) : Value := .text c.name

/-- A request from its row. -/
def requestOfRow (row : Row) : Except DatabaseError Request := do
  return {
    id := ← column row "request_id" readText
    userId := ← column row "user_id" readText
    userName := ← column row "user_name" readText
    userEmail := ← column row "user_email" readText
    purchaseEmail := ← nullableColumn row "purchase_email" readText
    proofFileUrl := ← nullableColumn row "proof_file_url" readText
    status := ← column row "status" (readName "CertificationStatus" Status.names)
    createdAt := ← column row "created_at" readInstant
    approvedAt := ← nullableColumn row "approved_at" readInstant
    rejectedAt := ← nullableColumn row "rejected_at" readInstant
    processedAt := ← nullableColumn row "processed_at" readInstant
    rejectionReason := ← nullableColumn row "rejection_reason" readText
    processedVia := ← nullableColumn row "processed_via" (readName "ProcessedVia" Channel.names)
    approvedBy := ← nullableColumn row "approved_by" readText
    rejectedBy := ← nullableColumn row "rejected_by" readText }

/-- A token from its row. -/
def tokenOfRow (row : Row) : Except DatabaseError Token := do
  return {
    requestId := ← column row "request_id" readText
    secret := ← column row "token" readText
    createdAt := ← column row "created_at" readInstant
    used := ← column row "used" readBool
    usedAt := ← nullableColumn row "used_at" readInstant }

/-- The record in the first row of an answer, if there is a row. -/
def record? {α : Type} (read : Row → Except DatabaseError α) (answer : Answer) :
    Except StoreError (Option α) :=
  match answer.row with
  | none => .ok none
  | some row => ((read row).mapError .database).map some

/-- Asks for a record. -/
def select {α : Type} (read : Row → Except DatabaseError α) (sql : String)
    (parameters : List Value) : Attempt (Option α) := do
  let answer ← perform sql parameters
  ExceptT.mk (return record? read answer)

/-! ## The statements -/

def insertRequestSql : String :=
  "INSERT INTO certification_requests ( request_id, user_id, user_name, user_email, " ++
    "purchase_email, proof_file_url, status, created_at ) " ++
    "VALUES ($1, $2, $3, $4, $5, $6, $7, $8)"

def insertTokenSql : String :=
  "INSERT INTO approval_tokens (request_id, token, created_at, used) VALUES ($1, $2, $3, false)"

def selectRequestSql : String := "SELECT * FROM certification_requests WHERE request_id = $1"

def selectTokenSql : String :=
  "SELECT request_id, token, created_at, used, used_at FROM approval_tokens WHERE request_id = $1"

/-- Locks the rows that are selected. -/
def forUpdate (sql : String) : String := sql ++ " FOR UPDATE"

def markTokenUsedSql : String :=
  "UPDATE approval_tokens SET used = true, used_at = $2 WHERE request_id = $1 AND used = false"

def updateRequestSql : String :=
  "UPDATE certification_requests SET status = $2, processed_at = $3, processed_via = $4, " ++
    "approved_at = $5, approved_by = $6, rejected_at = $7, rejected_by = $8, " ++
    "rejection_reason = $9 WHERE request_id = $1 AND status = 'pending' RETURNING *"

def insertNotificationSql : String :=
  "INSERT INTO notifications ( id, user_id, kind, title, message, read, action_type, metadata, " ++
    "created_at ) VALUES ($1, $2, $3, $4, $5, $6, $7, $8, $9)"

def certifyProfileSql : String :=
  "INSERT INTO user_profiles (user_id, spiritually_certified, certified_at) " ++
    "VALUES ($1, true, $2) ON CONFLICT (user_id) DO UPDATE " ++
    "SET spiritually_certified = true, certified_at = EXCLUDED.certified_at"

def appendAuditSql : String :=
  "INSERT INTO certification_audit_log ( id, request_id, user_id, user_name, action, " ++
    "performed_by, processed_via, rejection_reason, metadata, timestamp ) " ++
    "VALUES ($1, $2, $3, $4, $5, $6, $7, $8, $9, $10)"

/-! ## Their parameters -/

def newRequestValues (r : Request) : List Value :=
  [.text r.id, .text r.userId, .text r.userName, .text r.userEmail,
    optionValue .text r.purchaseEmail, optionValue .text r.proofFileUrl, statusValue r.status,
    instantValue r.createdAt]

def newTokenValues (t : Token) : List Value :=
  [.text t.requestId, .text t.secret, instantValue t.createdAt]

def decidedRequestValues (id : String) (r : Request) : List Value :=
  [.text id, statusValue r.status, optionValue instantValue r.processedAt,
    optionValue channelValue r.processedVia, optionValue instantValue r.approvedAt,
    optionValue .text r.approvedBy, optionValue instantValue r.rejectedAt,
    optionValue .text r.rejectedBy, optionValue .text r.rejectionReason]

def notificationValues (n : Notification) : List Value :=
  [.uuid n.id, .text n.userId, .text n.kind, .text n.title, .text n.message, .bool n.read,
    .text n.actionType, .json n.metadata, instantValue n.createdAt]

def auditValues (e : AuditEntry) : List Value :=
  [.uuid e.id, .text e.requestId, .text e.userId, .text e.userName, .text e.action,
    optionValue .text e.performedBy, optionValue channelValue e.processedVia,
    optionValue .text e.rejectionReason, .json e.metadata, instantValue e.timestamp]

/-! ## The calls -/

def insertRequest (r : Request) : Attempt Unit := insert r.id insertRequestSql (newRequestValues r)

def insertSubmission (r : Request) (t : Token) : Attempt Unit :=
  transaction do
    insertRequest r
    insert r.id insertTokenSql (newTokenValues t)
    return (.commit, ())

def insertToken (t : Token) : Attempt Bool := do
  let answer ← perform (insertTokenSql ++ " ON CONFLICT (request_id) DO NOTHING")
    (newTokenValues t)
  return answer.affected == 1

def markTokenUsed (id : String) (now : Instant) : Attempt Bool := do
  let answer ← perform markTokenUsedSql [.text id, instantValue now]
  return 0 < answer.affected

/-- Writes a decided request and yields the row as it then is. -/
def writeDecided (id : String) (r : Request) : Attempt Request := do
  match ← select requestOfRow updateRequestSql (decidedRequestValues id r) with
  | some after => return after
  | none => throw (.database .noRow)

/-- Carries out a decision. -/
def commit (id : String) (decision : Decision) (actor : Actor) (guard : Option Guard)
    (now : Instant) : Attempt CommitOutcome :=
  transaction do
    let request ← select requestOfRow (forUpdate selectRequestSql) [.text id]
    let token ← select tokenOfRow (forUpdate selectTokenSql) [.text id]
    match plan request token decision actor guard now with
    | .error crash =>
      abandon
      (Dialogue.crash crash : Script _)
    | .ok (.error cause) => return (.rollback, .refused cause)
    | .ok (.ok next) =>
      let after ← writeDecided id next
      let _ ← markTokenUsed id now
      return (.commit, .committed .pending after)

/-- Carries out a call to the store. -/
def answer : (call : StoreCall) → Attempt call.Result
  | .ping => do let _ ← perform "SELECT 1" []
  | .insertRequest r => insertRequest r
  | .insertSubmission r t => insertSubmission r t
  | .findRequest id => select requestOfRow selectRequestSql [.text id]
  | .insertToken t => insertToken t
  | .findToken id => select tokenOfRow selectTokenSql [.text id]
  | .markTokenUsed id now => markTokenUsed id now
  | .commit id decision actor guard now => commit id decision actor guard now
  | .insertNotification n => do
    let _ ← perform insertNotificationSql (notificationValues n)
  | .certifyProfile userId now => do
    let _ ← perform certifyProfileSql [.text userId, instantValue now]
  | .appendAudit e => do let _ ← perform appendAuditSql (auditValues e)

end ApprovalDesk.Database
