import ApprovalDesk.Dialogue
import ApprovalDesk.Json.Basic
import ApprovalDesk.Time.Instant
import ApprovalDesk.Uuid

/-!
# Scripts for a relational database

A script is a dialogue with a database: statements with parameters, each answered by the number of
rows that it changed and its first row. A transaction whose body fails is rolled back. A database keeps
time in whole microseconds.
-/

namespace ApprovalDesk.Database

set_option autoImplicit false

open ApprovalDesk.Time

/-- A value in a row or a parameter. -/
inductive Value where
  | null
  | text (s : String)
  | bool (b : Bool)
  | instant (t : Instant)
  | uuid (u : Uuid)
  | json (v : Json)

/-- A row: its values by the names of the columns. -/
abbrev Row := List (String × Value)

/-- A statement with its parameters. -/
structure Statement where
  sql : String
  parameters : List Value

/-- What a database answers to a statement that it carried out. -/
structure Answer where
  affected : Nat
  row : Option Row

/-- What a database answers to a statement. -/
abbrev Reply := Except DatabaseError Answer

/-- A dialogue with a database. -/
abbrev Script := Dialogue Statement fun _ => Reply

/-- A script that may fail for a reason of the store. -/
abbrev Attempt := ExceptT StoreError Script

/-! ## Time -/

/-- The first second of the year 2000. -/
def epochSecond : Int := 946684800

/-- The microseconds since 2000, toward zero. -/
def toMicros (t : Instant) : Int :=
  ((t.second - epochSecond) * 1000000000 + t.nano).tdiv 1000

/-- The instant a number of microseconds after 2000. -/
def ofMicros (n : Int) : Instant :=
  { second := epochSecond + n / 1000000, nano := (n % 1000000).toNat * 1000 }

/-- An instant as a database keeps it. -/
def kept (t : Instant) : Instant := ofMicros (toMicros t)

/-! ## Parameters -/

def instantValue (t : Instant) : Value := .instant (kept t)

/-- A value, or null if there is none. -/
def optionValue {α : Type} (f : α → Value) (v : Option α) : Value := v.elim .null f

/-! ## Statements -/

/-- A statement. -/
def ask (sql : String) (parameters : List Value) : Script Reply := .ask ⟨sql, parameters⟩ .done

/-- A statement of which a failure is one of the store. -/
def perform (sql : String) (parameters : List Value) : Attempt Answer :=
  ExceptT.mk do return (← ask sql parameters).mapError .database

/-- The code of a violated uniqueness. -/
def uniqueViolation : String := "23505"

/-- A failure to put in a record with a key: another one has it, or something else. -/
def insertFailure (key : String) : DatabaseError → StoreError
  | .refused code message =>
    if code = uniqueViolation then .duplicate key else .database (.refused code message)
  | e => .database e

/-- A statement that puts in a record with a key. -/
def insert (key sql : String) (parameters : List Value) : Attempt Unit :=
  ExceptT.mk do return ((← ask sql parameters).mapError (insertFailure key)).map fun _ => ()

/-- Leaves a transaction; whether that works is not told. -/
def abandon : Script Unit := do let _ ← ask "ROLLBACK" []

/-- How a transaction ends that did not fail. -/
inductive Ending where
  | commit
  | rollback

/-- Runs a script as a whole: if any of it fails, even its end, nothing of it is kept. -/
def transaction {α : Type} (body : Attempt (Ending × α)) : Attempt α :=
  ExceptT.mk do
    let result ← (do
      let _ ← perform "BEGIN" []
      let (ending, value) ← body
      let _ ← perform (match ending with | .commit => "COMMIT" | .rollback => "ROLLBACK") []
      return value : Attempt α).run
    match result with
    | .ok value => return .ok value
    | .error e =>
      abandon
      return .error e

/-! ## Rows -/

/-- Reads a column of a row; a value that is missing or of another kind counts as null. -/
def column {α : Type} (row : Row) (name : String) (read : Value → Option (Except ColumnFault α)) :
    Except DatabaseError α :=
  match read ((row.lookup name).getD .null) with
  | some (.ok a) => .ok a
  | some (.error fault) => .error (.column name fault)
  | none => .error (.column name .null)

/-- Reads a column that may be null. -/
def nullableColumn {α : Type} (row : Row) (name : String)
    (read : Value → Option (Except ColumnFault α)) : Except DatabaseError (Option α) :=
  match read ((row.lookup name).getD .null) with
  | some (.ok a) => .ok (some a)
  | some (.error fault) => .error (.column name fault)
  | none => .ok none

def readText : Value → Option (Except ColumnFault String)
  | .text s => some (.ok s)
  | _ => none

def readBool : Value → Option (Except ColumnFault Bool)
  | .bool b => some (.ok b)
  | _ => none

def readInstant : Value → Option (Except ColumnFault Instant)
  | .instant t => some (.ok (kept t))
  | _ => none

/-- Reads one of the names of an enumeration. -/
def readName {α : Type} (kind : String) (names : List (String × α)) :
    Value → Option (Except ColumnFault α)
  | .text s => some <| match names.lookup s with
    | some a => .ok a
    | none => .error (.unknownName s kind)
  | _ => none

end ApprovalDesk.Database
