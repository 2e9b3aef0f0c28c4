import ApprovalDesk.AuditEntry
import ApprovalDesk.Notification
import ApprovalDesk.Profile
import ApprovalDesk.Store.Plan
import ApprovalDesk.Store.Table

/-!
# The store

Requests and tokens under the id of the request, profiles under the id of the user, and notifications
and audit entries in the order in which they came. Every call is carried out as a whole; a decision in
particular reads the request and its token, writes both and lets nothing come between.
-/

namespace ApprovalDesk

set_option autoImplicit false

open ApprovalDesk.Time

/-- What is on record. -/
structure Store where
  requests : Table Request
  tokens : Table Token
  notifications : List Notification
  profiles : Table Profile
  audit : List AuditEntry

/-- A call to the store. -/
inductive StoreCall where
  | ping
  | insertRequest (request : Request)
  /-- Stores a new request together with its token. -/
  | insertSubmission (request : Request) (token : Token)
  | findRequest (id : String)
  /-- Stores a token unless the request has one, and tells whether it did. -/
  | insertToken (token : Token)
  | findToken (id : String)
  /-- Marks an unused token as used, and tells whether there was one. -/
  | markTokenUsed (id : String) (now : Instant)
  /-- Carries out a decision. -/
  | commit (id : String) (decision : Decision) (actor : Actor) (guard : Option Guard)
      (now : Instant)
  | insertNotification (notification : Notification)
  | certifyProfile (userId : String) (now : Instant)
  | appendAudit (entry : AuditEntry)

/-- What a call yields when it succeeds. -/
@[reducible] def StoreCall.Result : StoreCall → Type
  | .findRequest _ => Option Request
  | .findToken _ => Option Token
  | .insertToken _ | .markTokenUsed .. => Bool
  | .commit .. => CommitOutcome
  | .ping | .insertRequest _ | .insertSubmission .. | .insertNotification _ | .certifyProfile ..
  | .appendAudit _ => Unit

namespace Store

/-- Nothing on record. -/
def empty : Store := ⟨.empty, .empty, [], .empty, []⟩

def insertRequest (s : Store) (r : Request) : Except StoreError Unit × Store :=
  if s.requests.contains r.id then (.error (.duplicate r.id), s)
  else (.ok (), { s with requests := s.requests.insert r.id r })

def insertSubmission (s : Store) (r : Request) (t : Token) : Except StoreError Unit × Store :=
  if s.requests.contains r.id || s.tokens.contains t.requestId then (.error (.duplicate r.id), s)
  else
    (.ok (), { s with
      requests := s.requests.insert r.id r
      tokens := s.tokens.insert t.requestId t })

def insertToken (s : Store) (t : Token) : Bool × Store :=
  if s.tokens.contains t.requestId then (false, s)
  else (true, { s with tokens := s.tokens.insert t.requestId t })

def markTokenUsed (s : Store) (id : String) (now : Instant) : Bool × Store :=
  match s.tokens.find? id with
  | some t =>
    if t.used then (false, s)
    else (true, { s with tokens := s.tokens.insert id (t.markUsed now) })
  | none => (false, s)

/-- Carries out a decision: the record changes and the token, if there is one, is used up. -/
def commit (s : Store) (id : String) (decision : Decision) (actor : Actor) (guard : Option Guard)
    (now : Instant) : Except Crash (CommitOutcome × Store) :=
  (plan (s.requests.find? id) (s.tokens.find? id) decision actor guard now).map fun
    | .error cause => (.refused cause, s)
    | .ok after =>
      (.committed .pending after, { s with
        requests := s.requests.insert id after
        tokens := s.tokens.modify id (·.markUsed now) })

def insertNotification (s : Store) (n : Notification) : Store :=
  { s with notifications := s.notifications ++ [n] }

/-- Gives a user the badge; one who has it already gets a new date. -/
def certifyProfile (s : Store) (userId : String) (now : Instant) : Store :=
  let profile := (s.profiles.find? userId).getD ⟨userId, false, none⟩
  { s with
    profiles :=
      s.profiles.insert userId { profile with certified := true, certifiedAt := some now } }

def appendAudit (s : Store) (e : AuditEntry) : Store := { s with audit := s.audit ++ [e] }

/-- Carries out a call. -/
def answer (s : Store) : (call : StoreCall) → Except Crash (Except StoreError call.Result × Store)
  | .ping => .ok (.ok (), s)
  | .insertRequest r => .ok (s.insertRequest r)
  | .insertSubmission r t => .ok (s.insertSubmission r t)
  | .findRequest id => .ok (.ok (s.requests.find? id), s)
  | .insertToken t =>
    let (stored, s) := s.insertToken t
    .ok (.ok stored, s)
  | .findToken id => .ok (.ok (s.tokens.find? id), s)
  | .markTokenUsed id now =>
    let (marked, s) := s.markTokenUsed id now
    .ok (.ok marked, s)
  | .commit id decision actor guard now =>
    (s.commit id decision actor guard now).map fun (outcome, s) => (.ok outcome, s)
  | .insertNotification n => .ok (.ok (), s.insertNotification n)
  | .certifyProfile userId now => .ok (.ok (), s.certifyProfile userId now)
  | .appendAudit e => .ok (.ok (), s.appendAudit e)

/-- The notifications of a user. -/
def notificationsOf (s : Store) (userId : String) : List Notification :=
  s.notifications.filter (·.userId == userId)

/-- The audit entries about a request. -/
def auditOf (s : Store) (requestId : String) : List AuditEntry :=
  s.audit.filter (·.requestId == requestId)

end Store

end ApprovalDesk
