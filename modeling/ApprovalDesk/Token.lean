import ApprovalDesk.Failure
import ApprovalDesk.Time.Timestamp
import ApprovalDesk.Digest.Sha256
import ApprovalDesk.Text.Utf8

/-!
# Approval tokens

The single-use credential in the links of the administrator's mail, one for each request. A token is
checked in a fixed order: the string, then whether it has been used, then its age. The validity
includes its last instant.
-/

namespace ApprovalDesk

set_option autoImplicit false

open ApprovalDesk.Text ApprovalDesk.Time

/-- A token on record. -/
structure Token where
  requestId : String
  secret : String
  createdAt : Instant
  used : Bool
  usedAt : Option Instant
  deriving DecidableEq, Repr

/-- What a check of a supplied string against the record finds. -/
inductive Verdict where
  | valid
  /-- No token was issued for the request. -/
  | missing
  /-- The string is not the one on record. -/
  | mismatch
  /-- The right string, used before. -/
  | spent
  /-- The right string, too old. -/
  | expired
  /-- The store could not be read. -/
  | unavailable
  deriving DecidableEq, Repr

namespace Verdict

def isValid (v : Verdict) : Bool := v == .valid

/-- The caller has shown the right string, even if it can no longer be used. -/
def provesPossession : Verdict → Bool
  | .valid | .spent | .expired => true
  | .missing | .mismatch | .unavailable => false

end Verdict

/-- A supplied string and the validity in milliseconds against which it is checked. -/
structure Guard where
  supplied : String
  ttl : Int
  deriving DecidableEq, Repr

/-- Thirty-two random bytes. -/
structure RandomBlock where
  bytes : List UInt8
  size : bytes.length = 32 := by rfl
  deriving DecidableEq, Repr

namespace Token

/-- A fresh token. -/
def new (requestId secret : String) (now : Instant) : Token :=
  { requestId, secret, createdAt := now, used := false, usedAt := none }

/-- The last instant of the validity. -/
def expiresAt (t : Token) (ttl : Int) : Except Crash Instant :=
  match t.createdAt.addMillis ttl with
  | some e => .ok e
  | none => .error .expiryOutOfCalendar

/-- Past the last instant of the validity. -/
def isExpired (t : Token) (ttl : Int) (now : Instant) : Except Crash Bool :=
  (t.expiresAt ttl).map now.isAfter

/-- The supplied string is the one on record. -/
def isMatch (t : Token) (supplied : String) : Bool := t.secret == supplied

/-- Checks a supplied string. -/
def check (t : Token) (supplied : String) (ttl : Int) (now : Instant) : Except Crash Verdict :=
  if !t.isMatch supplied then .ok .mismatch
  else if t.used then .ok .spent
  else (t.isExpired ttl now).map fun expired => if expired then .expired else .valid

/-- Marks the token as used, unless it is already. -/
def markUsed (t : Token) (now : Instant) : Token :=
  if t.used then t else { t with used := true, usedAt := some now }

@[simp] theorem markUsed_used (t : Token) (now : Instant) : (t.markUsed now).used = true := by
  unfold markUsed
  split <;> simp_all

@[simp] theorem markUsed_secret (t : Token) (now : Instant) :
    (t.markUsed now).secret = t.secret := by
  unfold markUsed
  split <;> rfl

@[simp] theorem markUsed_createdAt (t : Token) (now : Instant) :
    (t.markUsed now).createdAt = t.createdAt := by
  unfold markUsed
  split <;> rfl

/-- The record as it is shown to operators, without the secret. -/
def redacted (t : Token) : String :=
  let usedAt := match t.usedAt with
    | none => "None"
    | some u => "Some(" ++ Timestamp.write u ++ ")"
  "ApprovalToken \x7b request_id: " ++ Quoted.encode t.requestId ++
    ", token: \"[redacted]\", created_at: " ++ Timestamp.write t.createdAt ++
    ", used: " ++ (if t.used then "true" else "false") ++ ", used_at: " ++ usedAt ++ " \x7d"

/-! ## Secrets -/

/-- An integer of 64 bits with a sign as eight bytes, most significant first, in two's complement. -/
def bigEndian64 (n : Int) : List UInt8 := Digest.Sha256.bigEndian 8 (n % 0x10000000000000000).toNat

/-- What is hashed into a secret: the request, random bytes and the time in nanoseconds, 0 if that
does not fit 64 bits. -/
def preimage (requestId : String) (random : RandomBlock) (now : Instant) : List UInt8 :=
  Utf8.encode requestId ++ random.bytes ++ bigEndian64 (now.nanos64?.getD 0)

/-- The secret for a request: the hexadecimal digits of a hash. -/
def secretFor (requestId : String) (random : RandomBlock) (now : Instant) : String :=
  String.ofList (Hex.encode (Digest.Sha256.hash (preimage requestId random now)))

end Token

end ApprovalDesk
