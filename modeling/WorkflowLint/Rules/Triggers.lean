import WorkflowLint.Document.Basic
import WorkflowLint.Report.Basic
import WorkflowLint.Rules.Wording

/-!
# Rules on triggers

One finding lists the triggers of the document.
-/

set_option autoImplicit false

namespace WorkflowLint.Rules

def triggerLabel (t : Trigger) : String :=
  (nonEmpty? t.name).getD "Unnamed Trigger" ++ " (" ++
    (nonEmpty? t.type).getD "Unknown Type" ++ ")"

/-- The findings on the triggers. -/
def triggers (d : Document) : List Finding :=
  [Finding.info "TRG001" "Triggers" <|
    listOr "This workflow doesn't have any triggers"
      ((d.triggers.present?.getD []).map triggerLabel)]

end WorkflowLint.Rules
