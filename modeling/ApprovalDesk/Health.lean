import ApprovalDesk.Json.Record
import ApprovalDesk.Failure

/-!
# Health of the service

The service is healthy when its store answers.
-/

namespace ApprovalDesk

set_option autoImplicit false

open Json Time

/-- The health of a part that the service depends on. -/
structure PartHealth where
  status : String
  responseTimeMs : Nat
  error : Option String
  deriving DecidableEq, Repr

/-- The answer to a question for the health of the service. -/
structure Health where
  status : String
  timestamp : String
  version : String
  store : PartHealth
  deriving DecidableEq, Repr

namespace PartHealth

/-- The error is left out when there is none. -/
def toJson (p : PartHealth) : Json :=
  .obj ([("status", Json.str p.status), ("response_time_ms", .ofInt p.responseTimeMs)] ++
    match p.error with
    | none => []
    | some e => [("error", .str e)])

def fields : List Field :=
  [.required "status" decodeText,
   .required "response_time_ms" (decodeNat "u128"),
   .required "error" (decodeOption decodeText)]

def decode : Decoder PartHealth := fun v => do
  let fs ← recordFields "ServiceHealth" fields v
  pure {
    status := ← required fs "status" decodeText
    responseTimeMs := ← required fs "response_time_ms" (decodeNat "u128")
    error := ← optional fs "error" decodeText }

end PartHealth

namespace Health

/-- The version that the service reports. -/
def serviceVersion : String := "0.1.0"

/-- The health at an instant, from what the store answered to being called. -/
def ofPing (answer : Except StoreError Unit) (now : Instant) : Health :=
  let (status, error) := match answer with
    | .ok () => ("healthy", none)
    | .error e => ("unhealthy", some ("Store error: " ++ e.message))
  { status
    timestamp := Timestamp.writeWithOffset now
    version := serviceVersion
    store := { status, responseTimeMs := 0, error } }

def isHealthy (h : Health) : Bool := h.store.status == "healthy"

def toJson (h : Health) : Json :=
  .obj [
    ("status", .str h.status),
    ("timestamp", .str h.timestamp),
    ("version", .str h.version),
    ("dependencies", .obj [("store", h.store.toJson)])]

/-- The parts that the service depends on. -/
def decodeDependencies : Decoder PartHealth := fun v => do
  let fs ← recordFields "DependencyStatus" [.required "store" PartHealth.decode] v
  required fs "store" PartHealth.decode

def fields : List Field :=
  [.required "status" decodeText,
   .required "timestamp" decodeText,
   .required "version" decodeText,
   .required "dependencies" decodeDependencies]

def decode : Decoder Health := fun v => do
  let fs ← recordFields "HealthResponse" fields v
  pure {
    status := ← required fs "status" decodeText
    timestamp := ← required fs "timestamp" decodeText
    version := ← required fs "version" decodeText
    store := ← required fs "dependencies" decodeDependencies }

end Health

end ApprovalDesk
