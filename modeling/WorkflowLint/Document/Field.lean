import WorkflowLint.Json.Members

/-!
# Fields of a document

A field may be missing, be `null`, hold a value of the wrong shape or hold what it should; some
rules tell all four apart. The readers here never fail: what has the wrong shape is kept as
`invalid` or counts as absent, so a fault in one place of a document leaves the rest readable.
-/

set_option autoImplicit false

namespace WorkflowLint

/-- What stands under a key. -/
inductive Field (α : Type) where
  | missing
  | null
  /-- Neither `null` nor of the expected shape. -/
  | invalid (value : Json)
  | present (value : α)

namespace Field

variable {α : Type}

instance : Inhabited (Field α) := ⟨.missing⟩

/-- The field that holds a value, if there is one, as `read?` understands it. -/
def ofJson? (read? : Json → Option α) : Option Json → Field α
  | none => .missing
  | some .null => .null
  | some v =>
    match read? v with
    | some a => .present a
    | none => .invalid v

/-- What the field holds if it holds what it should. -/
def present? : Field α → Option α
  | .present a => some a
  | _ => none

def isNull : Field α → Bool
  | .null => true
  | _ => false

/-- There is a value, of whatever shape, and it is not `null`. -/
def isSet : Field α → Bool
  | .invalid _ => true
  | .present _ => true
  | _ => false

end Field

namespace Members

/-- The field under a key. -/
def field {α : Type} (members : Members Json) (key : String) (read? : Json → Option α) : Field α :=
  Field.ofJson? read? (members.lookup key)

/-- The string under a key; anything else counts as absent. -/
def string? (members : Members Json) (key : String) : Option String :=
  (members.lookup key).bind Json.string?

/-- The list under a key; anything else counts as an empty one. -/
def items (members : Members Json) (key : String) : List Json :=
  ((members.lookup key).bind Json.items?).getD []

/-- The members of the object under a key; anything else counts as an empty one. -/
def object (members : Members Json) (key : String) : Members Json :=
  ((members.lookup key).bind Json.members?).getD []

/-- The value under a key with the members of its objects in order; `null` if there is none. -/
def property (members : Members Json) (key : String) : Json :=
  ((members.lookup key).getD .null).canonical

end Members

namespace Json

/-- The values that `read?` understands among the items of a list. -/
def listOf? {α : Type} (read? : Json → Option α) (v : Json) : Option (List α) :=
  v.items?.map fun items => items.filterMap read?

end Json

end WorkflowLint
