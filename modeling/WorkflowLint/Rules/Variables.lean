import WorkflowLint.Document.Basic
import WorkflowLint.Naming
import WorkflowLint.Report.Basic
import WorkflowLint.Rules.Wording

/-!
# Rules on variables

Each declared variable is judged by itself (`declaration`): one that lacks a required field gets one
error and nothing else; of a complete one (`Declared`) the description and the name are checked, and
it is always listed. One more finding says whether global variables were left in the document.
-/

set_option autoImplicit false

namespace WorkflowLint.Rules

/-- The required fields of a variable by name, as far as they are filled in. -/
def requiredFields (v : Option Variable) : List (String × Option String) :=
  [("name", nonEmpty? (v.bind Variable.name)), ("scope", nonEmpty? (v.bind Variable.scope)),
    ("description", nonEmpty? (v.bind Variable.description))]

/-- The names of the required fields that are not filled in. -/
def missingFields (v : Option Variable) : List String :=
  ((requiredFields v).filter fun f => f.2.isNone).map Prod.fst

/-- A variable with all its required fields. -/
structure Declared where
  name : String
  scope : String
  description : String
  type : Option String
  isRequired : Bool

def Declared.ofVariable? (v : Option Variable) : Option Declared := do
  let v ← v
  let name ← nonEmpty? v.name
  let scope ← nonEmpty? v.scope
  let description ← nonEmpty? v.description
  return ⟨name, scope, description, nonEmpty? v.type, v.isRequired.isTruthy⟩

def incomplete (v : Option Variable) : Finding :=
  (Finding.error "VAR001" "Variable Error"
    "One or more required properties are undefined").withMoreInfo
    ("Missing: " ++ ", ".intercalate (missingFields v))

/-- The description of a variable in one of the configured scopes has the configured length. -/
def shortDescription (config : Config) (v : Declared) : List Finding :=
  if config.requiresLongDescription v.scope ∧
      v.description.length < config.minDescriptionLength then
    [(Finding.warning "VAR002" ("Variable: " ++ v.name)
      ("Variable description is too short for scope \"" ++ v.scope ++ "\" for variable: " ++
        v.name)).withMoreInfo
      ("The variable description should be at least " ++ toString config.minDescriptionLength ++
        " characters for the following scopes: " ++ ", ".intercalate config.descriptionScopes)]
  else []

/-- The name is conventional, or already what would be suggested for it. -/
def unconventionalName (config : Config) (v : Declared) : List Finding :=
  let suggested := Naming.suggest config v.name
  if Naming.followsConvention v.name ∨ suggested = v.name then []
  else
    [(Finding.warning "VAR003" ("Variable: " ++ v.name)
      ("Variable name does not follow the naming convention. " ++
        "Each word should start with a capital letter.")).withMoreInfo
      ("Current Name: " ++ v.name ++ "\nSuggested Name: " ++ suggested)]

def listing (v : Declared) : Finding :=
  (Finding.info "VAR004" (Naming.stripLeadingDigits v.name)
    ("Type: " ++ v.type.getD "unknown")).withMoreInfo
    ("Description: " ++ v.description ++ "\nRequired: " ++ yesOrNo v.isRequired)

/-- The findings on one declaration. -/
def declaration (config : Config) (v : Option Variable) : List Finding :=
  match Declared.ofVariable? v with
  | none => [incomplete v]
  | some v => shortDescription config v ++ unconventionalName config v ++ [listing v]

/-- Global variables leave a `null` where the declarations should stand. -/
def globalVariables (declared : Option (Field (List (Option Variable)))) : Finding :=
  if declared.any Field.isNull then
    (Finding.error "VAR006" "Global Variables" "Failed").withMoreInfo
      ("Global variables should not be used in workflows or atomic actions meant to be shared. " ++
        "Instead, use a \"Set Variables\" activity to copy global variables to local variables " ++
        "within the workflow. Before exporting, simply remove the global variables so the other " ++
        "user can select their own")
  else
    (Finding.success "VAR006" "Global Variables" "Passed").withMoreInfo
      "The workflow does not appear to be using any global variables"

/-- The findings on the variables, in order. -/
def declarations (config : Config) (d : Document) : List Finding :=
  let declared := d.workflow.present?.map WorkflowBody.declarations
  let listed :=
    match declared.bind Field.present? with
    | some vs => vs.flatMap (declaration config)
    | none => [Finding.info "VAR005" "Variables" "No variables defined"]
  listed ++ [globalVariables declared]

end WorkflowLint.Rules
