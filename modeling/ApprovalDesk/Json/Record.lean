import ApprovalDesk.Json.Writer
import ApprovalDesk.Text.Quoted
import ApprovalDesk.Time.Timestamp
import ApprovalDesk.Uuid

/-!
# Records in JSON values

A record stands in a JSON value either as an object whose members are its fields, in any order and
among others, or as an array of its fields in their own order. The first fault is reported: the
values are looked at in the order in which they stand, and only then is it asked which are missing.
-/

namespace ApprovalDesk.Json

set_option autoImplicit false

open ApprovalDesk.Text ApprovalDesk.Time

/-- Why a value is not what was to be read. -/
inductive DecodeError where
  /-- A value of another kind. -/
  | wrongKind (found : Json) (expected : String)
  /-- A value of the right kind that is out of range. -/
  | wrongValue (found : String) (expected : String)
  /-- A name that is none of the known ones. -/
  | unknownVariant (found : String) (known : List String)
  | missingField (name : String)
  | repeatedField (name : String)
  /-- An array with too few or too many items. -/
  | wrongLength (found : Nat) (expected : String)
  | timestamp (cause : Timestamp.ReadError)
  | uuid (cause : Uuid.ReadError)

/-- A value named by its kind, short values with their content. -/
def describe : Json → String
  | .null => "null"
  | .bool true => "boolean `true`"
  | .bool false => "boolean `false`"
  | .num (.int n) => "integer `" ++ Decimal.intText n ++ "`"
  | .num (.real bits) => "floating point `" ++ String.ofList (writeReal bits) ++ "`"
  | .str s => "string " ++ Quoted.encode s
  | .arr _ => "sequence"
  | .obj _ => "map"

/-- The known names of a choice, as they are listed for the reader. -/
def listVariants : List String → String
  | [a] => "`" ++ a ++ "`"
  | [a, b] => "`" ++ a ++ "` or `" ++ b ++ "`"
  | names => "one of " ++ ", ".intercalate (names.map fun a => "`" ++ a ++ "`")

/-- The wording of an error. -/
def DecodeError.message : DecodeError → String
  | .wrongKind found expected => "invalid type: " ++ describe found ++ ", expected " ++ expected
  | .wrongValue found expected => "invalid value: " ++ found ++ ", expected " ++ expected
  | .unknownVariant found known =>
    "unknown variant `" ++ found ++ "`, expected " ++ listVariants known
  | .missingField name => "missing field `" ++ name ++ "`"
  | .repeatedField name => "duplicate field `" ++ name ++ "`"
  | .wrongLength found expected =>
    "invalid length " ++ Decimal.text found ++ ", expected " ++ expected
  | .timestamp cause => cause.message
  | .uuid cause => "UUID parsing failed: " ++ cause.message

/-- A reader of values. -/
abbrev Decoder (α : Type) := Json → Except DecodeError α

/-! ## Simple values -/

def decodeText : Decoder String
  | .str s => .ok s
  | v => .error (.wrongKind v "a string")

def decodeBool : Decoder Bool
  | .bool b => .ok b
  | v => .error (.wrongKind v "a boolean")

/-- A natural number; `what` names the range it is from. -/
def decodeNat (what : String) : Decoder Nat
  | .num (.int n) =>
    if 0 ≤ n then .ok n.toNat
    else .error (.wrongValue ("integer `" ++ Decimal.intText n ++ "`") what)
  | v => .error (.wrongKind v what)

/-- `null` stands for no value. -/
def decodeOption {α : Type} (d : Decoder α) : Decoder (Option α)
  | .null => .ok none
  | v => (d v).map some

def decodeTimestamp : Decoder Instant
  | .str s => (Timestamp.read s).mapError .timestamp
  | v => .error (.wrongKind v "an RFC 3339 formatted date and time string")

def decodeUuid : Decoder Uuid
  | .str s => (Uuid.read s).mapError .uuid
  | v => .error (.wrongKind v "a formatted UUID string")

/-- One of a list of names, given as a string or as an object whose only member has the name and no
value. -/
def decodeVariant {α : Type} (known : List (String × α)) : Decoder α := fun v =>
  let find (name : String) : Except DecodeError α :=
    match known.lookup name with
    | some a => .ok a
    | none => .error (.unknownVariant name (known.map (·.1)))
  match v with
  | .str s => find s
  | .obj [(name, content)] => do
    let a ← find name
    match content with
    | .null => .ok a
    | c => .error (.wrongKind c "unit")
  | .obj _ => .error (.wrongValue "map" "map with a single key")
  | v => .error (.wrongKind v "string or map")

/-! ## Records -/

/-- A field of a record: its name, what a value for it has to pass, and whether an array may end
before it. -/
structure Field where
  name : String
  check : Json → Except DecodeError Unit
  mayLack : Bool

/-- A field that every record has. -/
def Field.required {α : Type} (name : String) (d : Decoder α) : Field :=
  { name, check := fun v => (d v).map fun _ => (), mayLack := false }

/-- A field with a value to fall back on. -/
def Field.defaulted {α : Type} (name : String) (d : Decoder α) : Field :=
  { name, check := fun v => (d v).map fun _ => (), mayLack := true }

/-- The members of an object that are fields, checked in the order in which they stand. -/
def memberFields (fields : List Field) :
    List (String × Json) → List (String × Json) → Except DecodeError (List (String × Json))
  | seen, [] => .ok seen.reverse
  | seen, (name, v) :: rest =>
    match fields.find? (·.name == name) with
    | none => memberFields fields seen rest
    | some f => do
      if seen.any (·.1 == name) then .error (.repeatedField name)
      f.check v
      memberFields fields ((name, v) :: seen) rest

/-- The number of elements that a record has as an array. -/
def elementCount (count : Nat) : String :=
  Decimal.text count ++ (if count = 1 then " element" else " elements")

/-- The items of an array matched with the fields from position `at_` on. -/
def itemFields (what : String) (total : Nat) (count : Nat) :
    Nat → List Field → List Json → Except DecodeError (List (String × Json))
  | _, [], [] => .ok []
  | _, [], _ :: _ => .error (.wrongLength total "fewer elements in array")
  | i, f :: fields, [] =>
    if f.mayLack then itemFields what total count (i + 1) fields []
    else .error (.wrongLength i ("struct " ++ what ++ " with " ++ elementCount count))
  | i, f :: fields, v :: items => do
    f.check v
    let rest ← itemFields what total count (i + 1) fields items
    pure ((f.name, v) :: rest)

/-- The fields of a record, by name; `what` names the kind of record. -/
def recordFields (what : String) (fields : List Field) : Decoder (List (String × Json))
  | .obj members => memberFields fields [] members
  | .arr items => itemFields what items.length fields.length 0 fields items
  | v => .error (.wrongKind v ("struct " ++ what))

/-- A field that has to be there. -/
def required {α : Type} (fields : List (String × Json)) (name : String) (d : Decoder α) :
    Except DecodeError α :=
  match fields.lookup name with
  | some v => d v
  | none => .error (.missingField name)

/-- A field that may be missing, for which `null` stands as well. -/
def optional {α : Type} (fields : List (String × Json)) (name : String) (d : Decoder α) :
    Except DecodeError (Option α) :=
  match fields.lookup name with
  | some v => decodeOption d v
  | none => .ok none

/-- A field with a value to fall back on when it is missing. -/
def defaulted {α : Type} (fields : List (String × Json)) (name : String) (fallback : α)
    (d : Decoder α) : Except DecodeError α :=
  match fields.lookup name with
  | some v => d v
  | none => .ok fallback

end ApprovalDesk.Json
