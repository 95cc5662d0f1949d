import WorkflowLint.Document.Basic
import WorkflowLint.Report.Basic
import WorkflowLint.Rules.Wording

/-!
# Rules on the properties of a workflow

Two findings of every report: what the document is, and its categories.
-/

set_option autoImplicit false

namespace WorkflowLint.Rules

def definitionType (mode : Mode) : Finding :=
  (Finding.info "PROP001" "Definition Type" mode.name).withMoreInfo mode.remark

/-- The names of the categories of the document. -/
def categoryNames (d : Document) : List String :=
  (d.categories.present?.getD []).map Category.displayName

def categories (d : Document) : Finding :=
  Finding.info "PROP002" "Categories" <|
    listOr "This workflow doesn't have any categories" (categoryNames d)

/-- The findings on the properties, in order. -/
def properties (mode : Mode) (d : Document) : List Finding :=
  [definitionType mode, categories d]

end WorkflowLint.Rules
