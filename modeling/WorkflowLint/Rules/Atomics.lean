import WorkflowLint.Rules.Walk
import WorkflowLint.Rules.Wording

/-!
# Rules on atomic workflows

Every atomic workflow that a document refers to should be called by one of its subworkflows; the
first caller on the walk over the actions speaks for it.
-/

set_option autoImplicit false

namespace WorkflowLint.Rules

def resolved (call : Call) : Finding :=
  (Finding.info "ATM001" call.name "Resolved").withMoreInfo
    ("Continue on Failure: " ++ yesOrNo call.continueOnFailure)

def unresolved (reference : String) : Finding :=
  Finding.error "ATM002" reference "Failed to Resolve"

/-- The finding on one reference. -/
def atomic (calls : List (String × Call)) (reference : String) : Finding :=
  match calls.lookup reference with
  | some call => resolved call
  | none => unresolved reference

/-- The findings on the references, in order. -/
def atomics (d : Document) : List Finding :=
  let references := d.atomicReferences
  if references.isEmpty then [Finding.info "ATM003" "No Atomic Actions Found" "N/A"]
  else references.map (atomic d.walk.calls)

end WorkflowLint.Rules
