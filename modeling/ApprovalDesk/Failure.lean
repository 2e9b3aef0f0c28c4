import ApprovalDesk.Text.Quoted

/-!
# Failures

Why a call to the workflow did not succeed, as causes with their wording. What the caller is told
names neither the fault of a link nor anything about the store.
-/

namespace ApprovalDesk

set_option autoImplicit false

open ApprovalDesk.Text

/-- An arithmetic fault that cuts a call short: the end of a token's validity lies outside the
calendar. -/
inductive Crash where
  | expiryOutOfCalendar
  deriving DecidableEq, Repr

/-- Why a column of a database row cannot be read. -/
inductive ColumnFault where
  /-- A value is missing where there has to be one. -/
  | null
  /-- A name that the enumeration `kind` does not have. -/
  | unknownName (name kind : String)
  deriving DecidableEq, Repr

/-- A fault of a database. -/
inductive DatabaseError where
  /-- The server refused the statement, with a code of five characters. -/
  | refused (code message : String)
  /-- A column of a row cannot be read. -/
  | column (name : String) (fault : ColumnFault)
  /-- There was no row where there has to be one. -/
  | noRow
  deriving DecidableEq, Repr

/-- Why the store did not carry out a call. -/
inductive StoreError where
  | unavailable
  /-- A record with the key is there already. -/
  | duplicate (key : String)
  | database (cause : DatabaseError)
  deriving DecidableEq, Repr

/-- Why a call to the workflow did not succeed. -/
inductive Failure where
  /-- The caller sent something unusable. -/
  | invalid (detail : String)
  /-- The token is missing, wrong, spent or expired; which one is never told. -/
  | forbidden
  | notFound (detail : String)
  | methodNotAllowed
  | conflict (detail : String)
  | storage (cause : StoreError)
  | internal
  deriving DecidableEq, Repr

/-! ## Wording -/

def ColumnFault.message : ColumnFault → String
  | .null => "unexpected null; try decoding as an `Option`"
  | .unknownName name kind => "invalid value " ++ Quoted.encode name ++ " for enum " ++ kind

def DatabaseError.message : DatabaseError → String
  | .refused _ message => "error returned from database: " ++ message
  | .column name fault =>
    "error occurred while decoding column " ++ Quoted.encode name ++ ": " ++ fault.message
  | .noRow => "no rows returned by a query that expected to return at least one row"

def StoreError.message : StoreError → String
  | .unavailable => "Store unavailable"
  | .duplicate key => "Duplicate key: " ++ key
  | .database cause => "Database error: " ++ cause.message

namespace Failure

/-- The message for the operator. -/
def message : Failure → String
  | .invalid detail => "Validation error: " ++ detail
  | .forbidden => "Invalid or expired token"
  | .notFound detail => "Not found: " ++ detail
  | .methodNotAllowed => "Method not allowed"
  | .conflict detail => "Conflict: " ++ detail
  | .storage cause => "Storage error: " ++ cause.message
  | .internal => "Internal server error"

/-- The HTTP status of the answer. -/
def status : Failure → Nat
  | .invalid _ => 400
  | .forbidden => 403
  | .notFound _ => 404
  | .methodNotAllowed => 405
  | .conflict _ => 409
  | .storage _ | .internal => 500

/-- The code for callers that read JSON. -/
def code : Failure → String
  | .invalid _ => "validation_error"
  | .forbidden => "invalid_token"
  | .notFound _ => "not_found"
  | .methodNotAllowed => "method_not_allowed"
  | .conflict _ => "conflict"
  | .storage _ | .internal => "internal_error"

/-- The heading of the page. -/
def title : Failure → String
  | .invalid _ => "Invalid request"
  | .forbidden => "Invalid or expired link"
  | .notFound _ => "Request not found"
  | .methodNotAllowed => "Method not allowed"
  | .conflict _ => "Conflict"
  | .storage _ | .internal => "Something went wrong"

/-- The message for the caller. -/
def publicMessage : Failure → String
  | .invalid detail | .notFound detail | .conflict detail => detail
  | .forbidden =>
    "This link is no longer valid. It may have expired or already been used. " ++
      "Please process the request from the admin panel."
  | .methodNotAllowed => "This endpoint only accepts GET and POST requests."
  | .storage _ | .internal =>
    "We could not process the request. Please try again in a moment."

end Failure

end ApprovalDesk
