import ApprovalDesk.Database.Store
import ApprovalDesk.Proofs.Results

/-!
# Records in rows

A statement names its columns in the order of its parameters, and a row is read by the names of its
columns. A request is read back from what its submission writes, and its decision from what the decision
writes over that; so is a token, before and after it is used up. Only times change: they are cut to whole
microseconds, once.
-/

namespace ApprovalDesk.Database

set_option autoImplicit false

open ApprovalDesk.Time

/-! ## Times -/

theorem toMicros_ofMicros (n : Int) : toMicros (ofMicros n) = n := by
  unfold toMicros ofMicros
  dsimp only
  have scaled : (epochSecond + n / 1000000 - epochSecond) * 1000000000 +
      (((n % 1000000).toNat * 1000 : Nat) : Int) = n * 1000 := by omega
  rw [scaled, Int.mul_tdiv_cancel n (by decide)]

/-- A time that a database has kept is kept as it is. -/
theorem kept_kept (t : Instant) : kept (kept t) = kept t := congrArg ofMicros (toMicros_ofMicros _)

/-! ## Columns -/

section

variable {α β : Type} {row : Row} {name : String}

/-- Writing a value and reading it yields what `g` makes of it. -/
structure Reads (write : α → Value) (read : Value → Option (Except ColumnFault β)) (g : α → β) : Prop where
  value : ∀ a, read (write a) = some (.ok (g a))
  null : read .null = none

theorem reads_text : Reads .text readText id := ⟨fun _ => rfl, rfl⟩

theorem reads_bool : Reads .bool readBool id := ⟨fun _ => rfl, rfl⟩

theorem reads_instant : Reads instantValue readInstant kept :=
  ⟨fun t => congrArg (some ∘ Except.ok) (kept_kept t), rfl⟩

theorem reads_status : Reads statusValue (readName "CertificationStatus" Status.names) id :=
  ⟨fun s => by cases s <;> rfl, rfl⟩

theorem reads_channel : Reads channelValue (readName "ProcessedVia" Channel.names) id :=
  ⟨fun c => by cases c <;> rfl, rfl⟩

variable {write : α → Value} {read : Value → Option (Except ColumnFault β)} {g : α → β}

theorem Reads.column (reads : Reads write read g) {a : α} (stored : row.lookup name = some (write a)) :
    column row name read = .ok (g a) := by
  rw [Database.column, stored, Option.getD_some, reads.value]

theorem Reads.nullable (reads : Reads write read g) {a : Option α}
    (stored : row.lookup name = some (optionValue write a)) :
    nullableColumn row name read = .ok (a.map g) := by
  rw [nullableColumn, stored, Option.getD_some]
  cases a with
  | none => simp only [optionValue, Option.elim_none, reads.null, Option.map_none]
  | some a => simp only [optionValue, Option.elim_some, reads.value, Option.map_some]

theorem Reads.nullable_id {read : Value → Option (Except ColumnFault α)} (reads : Reads write read id)
    {a : Option α} (stored : row.lookup name = some (optionValue write a)) :
    nullableColumn row name read = .ok a := by
  rw [reads.nullable stored, Option.map_id_fun, id]

theorem Reads.absent (reads : Reads write read g) (absent : row.lookup name = none) :
    nullableColumn row name read = .ok none := by
  rw [nullableColumn, absent, Option.getD_none, reads.null]

theorem column_congr {other : Row} (same : other.lookup name = row.lookup name) :
    column other name read = column row name read := by
  rw [Database.column, Database.column, same]

theorem nullableColumn_congr {other : Row} (same : other.lookup name = row.lookup name) :
    nullableColumn other name read = nullableColumn row name read := by
  rw [nullableColumn, nullableColumn, same]

/-- A time that was read need not be cut any more. -/
theorem kept_of_nullableColumn {time : Option Instant}
    (read : nullableColumn row name readInstant = .ok time) : time.map kept = time := by
  unfold nullableColumn at read
  generalize (row.lookup name).getD .null = v at read
  cases v with
  | instant t =>
    cases read
    exact congrArg some (kept_kept t)
  | null | text | bool | uuid | json =>
    cases read
    rfl

end

/-! ## Requests -/

/-- The columns of a request that its submission writes, in the order of the parameters. -/
def requestColumns : List String :=
  ["request_id", "user_id", "user_name", "user_email", "purchase_email", "proof_file_url", "status",
    "created_at"]

/-- The columns of a request that its decision writes, in the order of the parameters after the first. -/
def decisionColumns : List String :=
  ["status", "processed_at", "processed_via", "approved_at", "approved_by", "rejected_at", "rejected_by",
    "rejection_reason"]

/-- The names of columns as a statement that puts in a row lists them. -/
def listed (columns : List String) : String := ", ".intercalate columns

/-- Columns with the numbers of their parameters. -/
def assigned (columns : List String) (first : Nat) : String :=
  ", ".intercalate ((columns.zipIdx first).map fun (name, number) => name ++ " = $" ++ toString number)

theorem insertRequestSql_columns : insertRequestSql =
    "INSERT INTO certification_requests ( " ++ listed requestColumns ++
      " ) VALUES ($1, $2, $3, $4, $5, $6, $7, $8)" := by
  decide +kernel

theorem updateRequestSql_columns : updateRequestSql =
    "UPDATE certification_requests SET " ++ assigned decisionColumns 2 ++
      " WHERE request_id = $1 AND status = 'pending' RETURNING *" := by
  decide +kernel

/-- The row that the submission of a request puts in. -/
def submittedRow (r : Request) : Row := requestColumns.zip (newRequestValues r)

/-- What a decision makes of a row; the first value of a column counts. -/
def decidedRow (id : String) (r : Request) (row : Row) : Row :=
  decisionColumns.zip (decidedRequestValues id r).tail ++ row

/-- The columns of a row hold the fields of a request. -/
structure HoldsRequest (row : Row) (r : Request) : Prop where
  id : column row "request_id" readText = .ok r.id
  userId : column row "user_id" readText = .ok r.userId
  userName : column row "user_name" readText = .ok r.userName
  userEmail : column row "user_email" readText = .ok r.userEmail
  purchaseEmail : nullableColumn row "purchase_email" readText = .ok r.purchaseEmail
  proofFileUrl : nullableColumn row "proof_file_url" readText = .ok r.proofFileUrl
  status : column row "status" (readName "CertificationStatus" Status.names) = .ok r.status
  createdAt : column row "created_at" readInstant = .ok r.createdAt
  approvedAt : nullableColumn row "approved_at" readInstant = .ok r.approvedAt
  rejectedAt : nullableColumn row "rejected_at" readInstant = .ok r.rejectedAt
  processedAt : nullableColumn row "processed_at" readInstant = .ok r.processedAt
  rejectionReason : nullableColumn row "rejection_reason" readText = .ok r.rejectionReason
  processedVia : nullableColumn row "processed_via" (readName "ProcessedVia" Channel.names) =
    .ok r.processedVia
  approvedBy : nullableColumn row "approved_by" readText = .ok r.approvedBy
  rejectedBy : nullableColumn row "rejected_by" readText = .ok r.rejectedBy

theorem requestOfRow_eq_ok {row : Row} {r : Request} : requestOfRow row = .ok r ↔ HoldsRequest row r := by
  constructor
  · intro read
    simp only [requestOfRow, bind_eq_ok] at read
    obtain ⟨_, id, _, userId, _, userName, _, userEmail, _, purchaseEmail, _, proofFileUrl, _, status, _,
      createdAt, _, approvedAt, _, rejectedAt, _, processedAt, _, rejectionReason, _, processedVia, _,
      approvedBy, _, rejectedBy, same⟩ := read
    cases same
    exact ⟨id, userId, userName, userEmail, purchaseEmail, proofFileUrl, status, createdAt, approvedAt,
      rejectedAt, processedAt, rejectionReason, processedVia, approvedBy, rejectedBy⟩
  · intro h
    rw [requestOfRow, h.id, h.userId, h.userName, h.userEmail, h.purchaseEmail, h.proofFileUrl, h.status,
      h.createdAt, h.approvedAt, h.rejectedAt, h.processedAt, h.rejectionReason, h.processedVia,
      h.approvedBy, h.rejectedBy]
    rfl

theorem submitted_is_read_back (id : String) (data : Submission) (created : Instant) :
    requestOfRow (submittedRow (Request.new id data created)) = .ok (Request.new id data (kept created)) :=
  requestOfRow_eq_ok.2 {
    id := reads_text.column rfl
    userId := reads_text.column rfl
    userName := reads_text.column rfl
    userEmail := reads_text.column rfl
    purchaseEmail := reads_text.nullable_id rfl
    proofFileUrl := reads_text.nullable_id rfl
    status := reads_status.column rfl
    createdAt := reads_instant.column rfl
    approvedAt := reads_instant.absent rfl
    rejectedAt := reads_instant.absent rfl
    processedAt := reads_instant.absent rfl
    rejectionReason := reads_text.absent rfl
    processedVia := reads_channel.absent rfl
    approvedBy := reads_text.absent rfl
    rejectedBy := reads_text.absent rfl }

/-- A decision writes over its columns and leaves the others as they are. -/
theorem HoldsRequest.decided {row : Row} {r : Request} (h : HoldsRequest row r) (id : String)
    (next : Request) : HoldsRequest (decidedRow id next row) { r with
      status := next.status
      processedAt := next.processedAt.map kept
      processedVia := next.processedVia
      approvedAt := next.approvedAt.map kept
      approvedBy := next.approvedBy
      rejectedAt := next.rejectedAt.map kept
      rejectedBy := next.rejectedBy
      rejectionReason := next.rejectionReason } where
  id := (column_congr rfl).trans h.id
  userId := (column_congr rfl).trans h.userId
  userName := (column_congr rfl).trans h.userName
  userEmail := (column_congr rfl).trans h.userEmail
  purchaseEmail := (nullableColumn_congr rfl).trans h.purchaseEmail
  proofFileUrl := (nullableColumn_congr rfl).trans h.proofFileUrl
  status := reads_status.column rfl
  createdAt := (column_congr rfl).trans h.createdAt
  approvedAt := reads_instant.nullable rfl
  rejectedAt := reads_instant.nullable rfl
  processedAt := reads_instant.nullable rfl
  rejectionReason := reads_text.nullable_id rfl
  processedVia := reads_channel.nullable_id rfl
  approvedBy := reads_text.nullable_id rfl
  rejectedBy := reads_text.nullable_id rfl

/-- **A decision is read back as it was made**, from the row of the request that was decided. -/
theorem decision_is_read_back {row : Row} {r : Request} (before : requestOfRow row = .ok r) (id : String)
    (d : Decision) (a : Actor) (now : Instant) :
    requestOfRow (decidedRow id (r.decided d a now) row) = .ok (r.decided d a (kept now)) := by
  rw [requestOfRow_eq_ok] at before ⊢
  have written := before.decided id (r.decided d a now)
  have approvedAt := kept_of_nullableColumn before.approvedAt
  have rejectedAt := kept_of_nullableColumn before.rejectedAt
  cases d with
  | approve =>
    simp only [Request.decided, rejectedAt] at written ⊢
    exact written
  | reject reason =>
    simp only [Request.decided, approvedAt] at written ⊢
    exact written

/-! ## Tokens -/

/-- The columns of a token that are written when it is handed out, in the order of the parameters. -/
def tokenColumns : List String := ["request_id", "token", "created_at"]

theorem insertTokenSql_columns : insertTokenSql =
    "INSERT INTO approval_tokens (" ++ listed (tokenColumns ++ ["used"]) ++ ") VALUES ($1, $2, $3, false)" := by
  decide +kernel

/-- The row of a token that is handed out. -/
def issuedRow (t : Token) : Row := tokenColumns.zip (newTokenValues t) ++ [("used", .bool false)]

/-- What using up a token makes of its row. -/
def spentRow (now : Instant) (row : Row) : Row :=
  [("used", .bool true), ("used_at", instantValue now)] ++ row

theorem tokenOfRow_eq_ok {row : Row} {t : Token} : tokenOfRow row = .ok t ↔
    column row "request_id" readText = .ok t.requestId ∧ column row "token" readText = .ok t.secret ∧
      column row "created_at" readInstant = .ok t.createdAt ∧ column row "used" readBool = .ok t.used ∧
      nullableColumn row "used_at" readInstant = .ok t.usedAt := by
  constructor
  · intro read
    simp only [tokenOfRow, bind_eq_ok] at read
    obtain ⟨_, requestId, _, secret, _, createdAt, _, used, _, usedAt, same⟩ := read
    cases same
    exact ⟨requestId, secret, createdAt, used, usedAt⟩
  · rintro ⟨requestId, secret, createdAt, used, usedAt⟩
    rw [tokenOfRow, requestId, secret, createdAt, used, usedAt]
    rfl

theorem issued_is_read_back (id secret : String) (created : Instant) :
    tokenOfRow (issuedRow (Token.new id secret created)) = .ok (Token.new id secret (kept created)) :=
  tokenOfRow_eq_ok.2 ⟨reads_text.column rfl, reads_text.column rfl, reads_instant.column rfl,
    reads_bool.column rfl, reads_instant.absent rfl⟩

/-- **A token that is used up is read back as used**, from the row of the token that was not. -/
theorem use_is_read_back {row : Row} {t : Token} (before : tokenOfRow row = .ok t) (unused : t.used = false)
    (now : Instant) : tokenOfRow (spentRow now row) = .ok (t.markUsed (kept now)) := by
  obtain ⟨requestId, secret, createdAt, -, -⟩ := tokenOfRow_eq_ok.1 before
  have marked : t.markUsed (kept now) = { t with used := true, usedAt := some (kept now) } := by
    rw [Token.markUsed, unused, if_neg Bool.false_ne_true]
  rw [marked]
  exact tokenOfRow_eq_ok.2 ⟨(column_congr rfl).trans requestId, (column_congr rfl).trans secret,
    (column_congr rfl).trans createdAt, reads_bool.column rfl, reads_instant.nullable (a := some now) rfl⟩

end ApprovalDesk.Database
