/-!
# JSON values

A number is an integer or a binary floating-point number given by its stored bits. The members of an
object keep the order in which they were written, and a name may occur again; `canonical` puts the
members in order of their names and keeps the last one of each name.
-/

namespace ApprovalDesk

set_option autoImplicit false

/-- A number: an integer, or a floating-point number by its 64 stored bits. -/
inductive Json.Number where
  | int (value : Int)
  | real (bits : UInt64)
  deriving DecidableEq, Repr

/-- A JSON value. -/
inductive Json where
  | null
  | bool (value : Bool)
  | num (value : Json.Number)
  | str (value : String)
  | arr (items : List Json)
  | obj (members : List (String × Json))
  deriving Repr, Inhabited

namespace Json

/-- The integer `n` as a value. -/
def ofInt (n : Int) : Json := .num (.int n)

/-- A text, or `null` if there is none. -/
def ofText? (s : Option String) : Json := s.elim .null .str

/-- Puts a member into a list in order of the names, in place of one of the same name. -/
def insertMember (name : String) (value : Json) : List (String × Json) → List (String × Json)
  | [] => [(name, value)]
  | (n, v) :: rest =>
    if name = n then (name, value) :: rest
    else if name < n then (name, value) :: (n, v) :: rest
    else (n, v) :: insertMember name value rest

mutual

/-- The value with the members of every object in order of their names, the last of each name. -/
def canonical : Json → Json
  | .arr items => .arr (canonicalItems items)
  | .obj members => .obj (canonicalMembers members)
  | v => v

def canonicalItems : List Json → List Json
  | [] => []
  | v :: rest => v.canonical :: canonicalItems rest

def canonicalMembers : List (String × Json) → List (String × Json)
  | [] => []
  | (n, v) :: rest =>
    let others := canonicalMembers rest
    if others.any (·.1 == n) then others else insertMember n v.canonical others

end

/-- The first member of an object with the name. -/
def get? (v : Json) (name : String) : Option Json :=
  match v with
  | .obj members => members.lookup name
  | _ => none

end Json

end ApprovalDesk
