import WorkflowLint.Document.Action
import WorkflowLint.Failure
import WorkflowLint.Json.Reader

/-!
# Workflow documents

What the rules look at in an exported workflow. A text is a document if it is JSON and its root an
object; nothing further down can make it unreadable (`Document.ofJson?`). A document describes a
workflow if it also says whether it is atomic (`Document.mode?`).
-/

set_option autoImplicit false

namespace WorkflowLint

/-- A category, known by its name if it has one. -/
inductive Category where
  | named (name : String)
  | other (value : Json)

namespace Category

/-- A string names itself, an object is named by the string under `name`. -/
def ofJson : Json → Category
  | .str name => .named name
  | .obj members =>
    match Members.string? members "name" with
    | some name => .named name
    | none => .other (.obj members)
  | v => .other v

/-- The name, or the text of a category without one. -/
def displayName : Category → String
  | .named name => name
  | .other v => v.compact

end Category

/-- A declared variable. -/
structure Variable where
  name : Option String
  scope : Option String
  description : Option String
  type : Option String
  isRequired : Json

/-- The variable that a declaration gives in its `properties`; none if that is no object. -/
def Variable.ofJson? (v : Json) : Option Variable := do
  let members ← v.members?
  let properties ← (← members.lookup "properties").members?
  return {
    name := Members.string? properties "name"
    scope := Members.string? properties "scope"
    description := Members.string? properties "description"
    type := Members.string? properties "type"
    isRequired := Members.property properties "is_required" }

/-- A target of a group. -/
structure GroupTarget where
  type : Option String
  selectedIds : List Json

def GroupTarget.ofJson? (v : Json) : Option GroupTarget :=
  v.members?.map fun members =>
    ⟨Members.string? members "data_target_type", Members.items members "selected_target_ids"⟩

/-- A group of targets. -/
structure TargetGroup where
  name : Option String
  targets : List GroupTarget

/-- Anything but an object is a group without name and targets. -/
def TargetGroup.ofJson (v : Json) : TargetGroup :=
  let members := v.members?.getD []
  ⟨Members.string? members "name", (Members.items members "targets").filterMap GroupTarget.ofJson?⟩

structure Trigger where
  name : Option String
  type : Option String

def Trigger.ofJson? (v : Json) : Option Trigger :=
  v.members?.map fun members => ⟨Members.string? members "name", Members.string? members "type"⟩

structure AtomicSettings where
  isAtomic : Field Bool

def AtomicSettings.ofJson? (v : Json) : Option AtomicSettings :=
  v.members?.map fun members => ⟨Members.field members "is_atomic" Json.bool?⟩

structure WorkflowProperties where
  atomic : Field AtomicSettings

def WorkflowProperties.ofJson? (v : Json) : Option WorkflowProperties :=
  v.members?.map fun members => ⟨Members.field members "atomic" AtomicSettings.ofJson?⟩

/-- The workflow itself. -/
structure WorkflowBody where
  properties : Field WorkflowProperties
  /-- A declaration without variable is `none`. -/
  declarations : Field (List (Option Variable))
  actions : Field (List Action)

def WorkflowBody.ofJson? (v : Json) : Option WorkflowBody :=
  v.members?.map fun members => {
    properties := Members.field members "properties" WorkflowProperties.ofJson?
    declarations := Members.field members "variables" fun v =>
      v.items?.map fun items => items.map Variable.ofJson?
    actions := Members.field members "actions" (Json.listOf? Action.ofJson?) }

/-- An exported workflow and what surrounds it. -/
structure Document where
  workflow : Field WorkflowBody
  categories : Field (List Category)
  /-- Targets written into the document. -/
  targets : Field Json
  /-- The groups by their identifiers, in document order. -/
  targetGroups : Field (List (String × TargetGroup))
  triggers : Field (List Trigger)
  atomicWorkflows : Field (List Json)

namespace Document

/-- The document of an object whose keys are distinct. -/
def ofMembers (members : Members Json) : Document where
  workflow := Members.field members "workflow" WorkflowBody.ofJson?
  categories := Members.field members "categories" fun v =>
    v.items?.map fun items => items.map Category.ofJson
  targets := Members.field members "targets" some
  targetGroups := Members.field members "target_groups" fun v =>
    v.members?.map fun groups => groups.map fun g => (g.1, TargetGroup.ofJson g.2)
  triggers := Members.field members "triggers" (Json.listOf? Trigger.ofJson?)
  atomicWorkflows := Members.field members "atomic_workflows" Json.items?

/-- The document that a value describes; none unless it is an object. -/
def ofJson? (v : Json) : Option Document := v.settle.members?.map ofMembers

/-- Reads a document. -/
def ofText (text : String) : Except Failure Document :=
  match Json.ofText text with
  | .error e => .error ⟨.parse, "Failed to parse workflow JSON: " ++ e.message⟩
  | .ok v =>
    match ofJson? v with
    | some d => .ok d
    | none => .error ⟨.parse, "Failed to parse workflow JSON: document root must be an object"⟩

/-- The action forest of the workflow. -/
def forest (d : Document) : List Action :=
  (d.workflow.present?.bind fun body => body.actions.present?).getD []

/-- All activities of the workflow, each before those below it. -/
def activities (d : Document) : List Activity := Action.preorderAll d.forest

/-- The identifiers of the atomic workflows that the document depends on. -/
def atomicReferences (d : Document) : List String :=
  (d.atomicWorkflows.present?.getD []).map fun
    | .str id => id
    | v => v.compact

end Document

/-- What a document is for. -/
inductive Mode where
  | atomicAction
  | workflow
  deriving DecidableEq, Inhabited

namespace Mode

def isAtomic : Mode → Bool
  | .atomicAction => true
  | .workflow => false

def ofBool (isAtomic : Bool) : Mode := if isAtomic then .atomicAction else .workflow

theorem isAtomic_ofBool (b : Bool) : (ofBool b).isAtomic = b := by cases b <;> rfl

/-- The words for what the document is. -/
def name : Mode → String
  | .atomicAction => "Atomic Action"
  | .workflow => "Workflow"

/-- The words about what the mode means for the rules. -/
def remark : Mode → String
  | .atomicAction =>
    "This is an atomic action, specific checks for atomic activities can be applied here."
  | .workflow =>
    "This is a normal workflow, specific checks for workflow activities can be applied here."

end Mode

/-- The level at which a document fails to be a workflow. -/
inductive Gap where
  | workflow
  | properties
  | atomic
  | isAtomic
  deriving DecidableEq

def Gap.message : Gap → String
  | .workflow => "Invalid workflow structure: 'workflow' not found"
  | .properties => "Invalid workflow structure: 'properties' not found"
  | .atomic => "Invalid workflow structure: 'properties.atomic' not found"
  | .isAtomic => "Invalid workflow structure: 'properties.atomic.is_atomic' must be a boolean"

/-- The mode that the document states, or the first level that is missing on the way to it. -/
def Document.mode? (d : Document) : Except Gap Mode :=
  match d.workflow.present? with
  | none => .error .workflow
  | some body =>
    match body.properties.present? with
    | none => .error .properties
    | some properties =>
      match properties.atomic.present? with
      | none => .error .atomic
      | some atomic =>
        match atomic.isAtomic.present? with
        | none => .error .isAtomic
        | some flag => .ok (Mode.ofBool flag)

end WorkflowLint
