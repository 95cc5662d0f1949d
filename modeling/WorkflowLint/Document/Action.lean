import WorkflowLint.Document.Field

/-!
# Actions

The actions of a workflow form a forest. A node holds the data of one `Activity` and has two lists
of children, `blocks` before `actions`. Reading keeps every object that stands where an action may
stand and drops everything else; `Action.preorder` lists the activities of a node and of all nodes
below it, a node before its children. That is the order in which a walk visits them.
-/

set_option autoImplicit false

namespace WorkflowLint

/-- Under whose account keys an activity runs. -/
structure RuntimeUser where
  targetDefault : Json

/-- The default keys of the target are used. -/
def RuntimeUser.usesTargetDefault (u : RuntimeUser) : Bool := u.targetDefault.isTruthy

def RuntimeUser.ofJson? (v : Json) : Option RuntimeUser :=
  v.members?.map fun members => ⟨Members.property members "target_default"⟩

/-- What one action does, its children apart. -/
structure Activity where
  type : Option String
  baseType : Option String
  displayName : Option String
  continueOnFailure : Json
  continueOnErrorStatusCode : Json
  allowAutoRedirect : Json
  runtimeUser : Field RuntimeUser
  /-- The workflow that a subworkflow calls. -/
  workflowId : Option String
  /-- The properties without a meaning here, by key. -/
  extra : List (String × Json)

namespace Activity

/-- The keys of the properties that have a meaning. -/
def knownKeys : List String :=
  ["display_name", "continue_on_failure", "continue_on_error_status_code", "allow_auto_redirect",
    "runtime_user", "workflow_id"]

/-- The activity of the object with these members. -/
def ofMembers (members : Members Json) : Activity :=
  let properties := Members.object members "properties"
  { type := Members.string? members "type"
    baseType := Members.string? members "base_type"
    displayName := Members.string? properties "display_name"
    continueOnFailure := Members.property properties "continue_on_failure"
    continueOnErrorStatusCode := Members.property properties "continue_on_error_status_code"
    allowAutoRedirect := Members.property properties "allow_auto_redirect"
    runtimeUser := Members.field properties "runtime_user" RuntimeUser.ofJson?
    workflowId := Members.string? properties "workflow_id"
    extra := Members.sort ((properties.filter fun m => !knownKeys.contains m.1).map fun m =>
      (m.1, m.2.canonical)) }

/-- The name to show. -/
def shownName (a : Activity) : String :=
  match a.displayName with
  | some name => if name.isEmpty then "Unnamed Action" else name
  | none => "Unnamed Action"

/-- The activity calls another workflow. -/
def isSubworkflow (a : Activity) : Bool := a.baseType == some "subworkflow"

end Activity

/-- A node of the action forest. -/
structure Action where
  activity : Activity
  blocks : List Action
  actions : List Action

namespace Action

mutual

/-- The action that an object stands for. -/
def ofJson? : Json → Option Action
  | .obj members =>
    some ⟨Activity.ofMembers members, ofMembers "blocks" members, ofMembers "actions" members⟩
  | _ => none

/-- The actions in the list under a key. -/
def ofMembers (key : String) : List (String × Json) → List Action
  | [] => []
  | (k, .arr items) :: rest => if k = key then ofItems items else ofMembers key rest
  | (k, _) :: rest => if k = key then [] else ofMembers key rest

/-- The actions among the items of a list. -/
def ofItems : List Json → List Action
  | [] => []
  | v :: rest =>
    match ofJson? v with
    | some action => action :: ofItems rest
    | none => ofItems rest

end

theorem ofItems_eq_filterMap (items : List Json) : ofItems items = items.filterMap ofJson? := by
  induction items with
  | nil => rfl
  | cons v rest ih => cases h : ofJson? v <;> simp [ofItems, h, ih]

theorem ofMembers_eq_filterMap (key : String) (members : Members Json) :
    ofMembers key members = (Members.items members key).filterMap ofJson? := by
  induction members with
  | nil => rfl
  | cons m rest ih =>
    obtain ⟨k, v⟩ := m
    by_cases h : k = key
    · subst h
      cases v <;>
        simp [ofMembers, Members.items, Json.items?, ofItems_eq_filterMap]
    · have hk : ¬key = k := fun e => h e.symm
      cases v <;> simp [ofMembers, Members.items, lookup_cons_ite, h, hk] <;>
        simpa [Members.items] using ih

/-- The children, blocks first. -/
def children (a : Action) : List Action := a.blocks ++ a.actions

mutual

/-- The activities of the node and of all nodes below it, a node before its children. -/
def preorder : Action → List Activity
  | ⟨activity, blocks, actions⟩ => activity :: preorderAll blocks ++ preorderAll actions

/-- The activities of a forest. -/
def preorderAll : List Action → List Activity
  | [] => []
  | a :: rest => preorder a ++ preorderAll rest

end

theorem preorderAll_eq_flatMap (forest : List Action) :
    preorderAll forest = forest.flatMap preorder := by
  induction forest with
  | nil => rfl
  | cons a rest ih => simp [preorderAll, ih]

theorem preorder_eq (a : Action) :
    a.preorder = a.activity :: a.children.flatMap preorder := by
  obtain ⟨activity, blocks, actions⟩ := a
  simp [preorder, children, preorderAll_eq_flatMap]

end Action

end WorkflowLint
