/-!
# Wording

Phrases that several rules build their texts from.
-/

set_option autoImplicit false

namespace WorkflowLint.Rules

def yesOrNo (b : Bool) : String := if b then "Yes" else "No"

/-- The text if it is not empty. -/
def nonEmpty? (text : Option String) : Option String := text.filter fun s => !s.isEmpty

/-- The parts with commas between them, or what to say where there are none. -/
def listOr (otherwise : String) (parts : List String) : String :=
  if parts.isEmpty then otherwise else ", ".intercalate parts

end WorkflowLint.Rules
