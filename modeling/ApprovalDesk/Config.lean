import ApprovalDesk.Settings
import ApprovalDesk.Text.Decimal
import ApprovalDesk.Text.Quoted

/-!
# Configuration from the environment

The service is configured by environment variables whose names may be in any case. A name is a path:
`__` in it leads to an entry of a table and a number in brackets to an item of a list, so that the
setting it begins with is no text. A name that is no path belongs to a setting of its own. The validity
of tokens is looked at first, then the other settings that must be there.
-/

namespace ApprovalDesk

set_option autoImplicit false

open ApprovalDesk.Text

/-- The variables of an environment; of two with the same name the later one counts. -/
abbrev Environment := List (String × String)

/-- What is configured under a name. -/
inductive Setting where
  | text (value : String)
  | table
  | list
  deriving DecidableEq, Repr

namespace Environment

/-- A character of a name on a path. -/
def isNameChar (c : Char) : Bool := c.isAlphanum || c == ' ' || c == '_' || c == '-'

/-- A character in lower case, of which the letters of ASCII count: the Kelvin sign U+212A is the one
character beyond ASCII that has one of them as its lower case. -/
def lowerChar (c : Char) : Char := if c == '\u212A' then 'k' else c.toLower

/-- The name in lower case with a point for every `__`. -/
def pathChars : List Char → List Char
  | '_' :: '_' :: rest => '.' :: pathChars rest
  | c :: rest => lowerChar c :: pathChars rest
  | [] => []

/-- An integer of 64 bits with blanks around it. -/
def isIndex (cs : List Char) : Bool :=
  let isGap (c : Char) : Bool := c == ' ' || c == '\t'
  let number := ((cs.dropWhile isGap).reverse.dropWhile isGap).reverse
  let (bound, digits) := match number with
    | '-' :: digits => (0x8000000000000000, digits)
    | digits => (0x7FFFFFFFFFFFFFFF, digits)
  (Decimal.number? digits).any (· ≤ bound)

/-- What follows the first name of a path: names after a point and numbers in brackets. -/
def isSteps : List Char → Bool
  | [] => true
  | '.' :: cs => cs.head?.any isNameChar && isSteps (cs.dropWhile isNameChar)
  | '[' :: cs =>
    cs.contains ']' && isIndex (cs.takeWhile (· != ']')) &&
      isSteps ((cs.dropWhile (· != ']')).drop 1)
  | _ => false
termination_by cs => cs.length
decreasing_by
  · have := (List.dropWhile_suffix isNameChar (l := cs)).length_le
    simp; omega
  · have := (List.dropWhile_suffix (· != ']') (l := cs)).length_le
    simp at this ⊢; omega

/-- The setting that a variable belongs to. -/
def place (name value : String) : String × Setting :=
  let path := pathChars name.toList
  let first := path.takeWhile isNameChar
  let steps := path.dropWhile isNameChar
  if first.isEmpty || steps.isEmpty || !isSteps steps then (String.ofList path, .text value)
  else (String.ofList first, if steps.head? == some '[' then .list else .table)

/-- A setting that is a table or a list. -/
def isCollection : Setting → Bool
  | .text _ => false
  | .table | .list => true

/-- What is configured under a key, which is a text only where all variables of that key are. -/
def setting? (env : Environment) (key : String) : Option Setting :=
  let found := ((env.map fun v => place v.1 v.2).filter (·.1 == key)).map (·.2)
  (found.filter isCollection).getLast?.or found.getLast?

end Environment

/-- What the service is configured with. -/
structure Config where
  /-- Where the database is; without it the store is kept in memory. -/
  databaseUrl : Option String
  baseUrl : String
  host : String
  port : Nat
  senderAddress : String
  adminRecipient : String
  mailApiUrl : Option String
  mailApiKey : Option String
  tokenTtlDays : Int
  adminConsoleUrl : Option String
  deriving DecidableEq, Repr

namespace Config

/-- Why an environment is no configuration. -/
inductive Error where
  | notFound (key : String)
  /-- A text that is no integer. -/
  | noInteger (key found : String)
  /-- A table in place of what is expected. -/
  | unexpectedTable (key expected : String)
  /-- A list in place of what is expected. -/
  | unexpectedList (key expected : String)
  /-- An integer that is no port. -/
  | noPort (found : Nat)
  /-- A validity that is too short or too long. -/
  | ttlOutOfRange (days : Int)
  deriving DecidableEq, Repr

/-- How long a token is valid unless it is configured, in days. -/
def defaultTtlDays : Int := 7

/-- The longest validity, in days. -/
def maxTtlDays : Int := 3650

/-- The key of the validity. -/
def ttlKey : String := "token_ttl_days"

def Error.message : Error → String
  | .notFound key => "configuration property " ++ Quoted.encode key ++ " not found"
  | .noInteger key found =>
    "invalid type: string " ++ Quoted.encode found ++ ", expected an integer for key `" ++ key ++
      "` in the environment"
  | .unexpectedTable key expected =>
    "invalid type: map, expected " ++ expected ++ " for key `" ++ key ++ "`"
  | .unexpectedList key expected =>
    "invalid type: sequence, expected " ++ expected ++ " for key `" ++ key ++ "`"
  | .noPort found =>
    "invalid type: 64-bit unsigned integer `" ++ Decimal.text found ++
      "`, expected an unsigned 16 bit integer for key `port`"
  | .ttlOutOfRange days =>
    "TOKEN_TTL_DAYS must be between 1 and " ++ Decimal.intText maxTtlDays ++ ", got " ++
      Decimal.intText days

/-! ## Integers -/

/-- The words for 1 and 0. -/
def wordValue? (s : String) : Option Nat :=
  let word := String.ofList (s.toList.map Char.toLower)
  if word = "true" ∨ word = "on" ∨ word = "yes" then some 1
  else if word = "false" ∨ word = "off" ∨ word = "no" then some 0
  else none

/-- Decimal digits after an optional sign. -/
def decimal? (s : String) : Option Int :=
  match s.toList with
  | '-' :: ds => (Decimal.number? ds).map fun n => -(n : Int)
  | '+' :: ds => (Decimal.number? ds).map fun n => (n : Int)
  | ds => (Decimal.number? ds).map fun n => (n : Int)

/-- A word or an integer of 64 bits with a sign. -/
def signed? (s : String) : Option Int :=
  match wordValue? s with
  | some n => some n
  | none => (decimal? s).filter fun n => -9223372036854775808 ≤ n && n ≤ 9223372036854775807

/-- A word or an integer of 64 bits that is written without a minus. -/
def unsigned? (s : String) : Option Nat :=
  match wordValue? s with
  | some n => some n
  | none =>
    if s.toList.head? == some '-' then none
    else ((decimal? s).filter (· ≤ 18446744073709551615)).map Int.toNat

/-! ## Settings -/

/-- A text that must be there. -/
def text (env : Environment) (key : String) : Except Error String :=
  match env.setting? key with
  | some (.text value) => .ok value
  | some .table => .error (.unexpectedTable key "a string")
  | some .list => .error (.unexpectedList key "a string")
  | none => .error (.notFound key)

/-- A text, if there is one. -/
def text? (env : Environment) (key : String) : Option String := (text env key).toOption

/-- The validity of tokens in days. -/
def ttlDays (env : Environment) : Except Error Int := do
  let days ← match env.setting? ttlKey with
    | none => pure defaultTtlDays
    | some .table => .error (.unexpectedTable ttlKey "an integer")
    | some .list => .error (.unexpectedList ttlKey "an integer")
    | some (.text value) =>
      match signed? value with
      | some days => pure days
      | none => .error (.noInteger ttlKey value)
  if 1 ≤ days ∧ days ≤ maxTtlDays then return days else .error (.ttlOutOfRange days)

/-- The port that the service listens on. -/
def readPort (env : Environment) : Except Error Nat :=
  match env.setting? "port" with
  | none => .error (.notFound "port")
  | some .table => .error (.unexpectedTable "port" "an integer")
  | some .list => .error (.unexpectedList "port" "an integer")
  | some (.text value) =>
    match unsigned? value with
    | none => .error (.noInteger "port" value)
    | some n => if n < 65536 then .ok n else .error (.noPort n)

/-- Reads the configuration. -/
def ofEnvironment (env : Environment) : Except Error Config := do
  let tokenTtlDays ← ttlDays env
  let baseUrl ← text env "base_url"
  let port ← readPort env
  let senderAddress ← text env "sender_address"
  let adminRecipient ← text env "admin_recipient"
  return {
    databaseUrl := text? env "database_url"
    baseUrl
    host := (text? env "host").getD "127.0.0.1"
    port
    senderAddress
    adminRecipient
    mailApiUrl := text? env "mail_api_url"
    mailApiKey := text? env "mail_api_key"
    tokenTtlDays
    adminConsoleUrl := text? env "admin_console_url" }

/-- What the workflow is set up with. -/
def settings (c : Config) : Settings where
  senderAddress := c.senderAddress
  adminRecipient := c.adminRecipient
  tokenTtl := c.tokenTtlDays * 86400000
  publicBaseUrl := c.baseUrl
  adminConsoleUrl := c.adminConsoleUrl

end Config

end ApprovalDesk
