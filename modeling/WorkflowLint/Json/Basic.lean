/-!
# JSON values

A value keeps what the text of a document said: integers that fit 64 bits stay integers, every
other number is a float, and an object is the list of its members in the order of the text. The
views below (`string?`, `items?`, `members?`) are what document readers match on: each answers
for one kind of value and is `none` for every other.
-/

set_option autoImplicit false

namespace WorkflowLint

/-- A JSON number: an integer literal within 64 bits, or a double. -/
inductive Number where
  | int (value : Int)
  | float (value : Float)
  deriving Inhabited

/-- A JSON value; the members of an object stand in text order. -/
inductive Json where
  | null
  | bool (value : Bool)
  | num (value : Number)
  | str (value : String)
  | arr (items : List Json)
  | obj (members : List (String × Json))
  deriving Inhabited

/-- Zero of either kind and of either sign. -/
def Number.isZero : Number → Bool
  | .int n => n == 0
  | .float x => x == 0.0

namespace Json

def string? : Json → Option String
  | .str s => some s
  | _ => none

def bool? : Json → Option Bool
  | .bool b => some b
  | _ => none

def items? : Json → Option (List Json)
  | .arr items => some items
  | _ => none

def members? : Json → Option (List (String × Json))
  | .obj members => some members
  | _ => none

/-- A checkbox holding the value is ticked: all but `null`, `false`, zero and the empty string. -/
def isTruthy : Json → Bool
  | .null => false
  | .bool b => b
  | .num n => !n.isZero
  | .str s => !s.isEmpty
  | .arr _ => true
  | .obj _ => true

theorem bool?_eq_some_iff {v : Json} {b : Bool} : v.bool? = some b ↔ v = .bool b := by
  cases v <;> simp [bool?]

theorem items?_eq_some_iff {v : Json} {items : List Json} :
    v.items? = some items ↔ v = .arr items := by
  cases v <;> simp [items?]

theorem members?_eq_some_iff {v : Json} {members : List (String × Json)} :
    v.members? = some members ↔ v = .obj members := by
  cases v <;> simp [members?]

end Json

end WorkflowLint
