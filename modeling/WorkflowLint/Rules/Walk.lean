import WorkflowLint.Rules.Activities

/-!
# The walk over the actions

One walk visits every action, a node before its children and `blocks` before `actions`, and keeps
a record on its way (`Walk`): what the rules found, how many activities there are, their types, and
which workflow is called by whom. The rules on activities, atomic workflows and statistics read the
record that the whole forest leaves (`Document.walk`).
-/

set_option autoImplicit false

namespace WorkflowLint

/-- What a reference to a workflow shows of the activity that calls it. -/
structure Call where
  name : String
  continueOnFailure : Bool
  deriving DecidableEq

def Activity.call (a : Activity) : Call := ⟨a.shownName, a.continueOnFailure.isTruthy⟩

/-- The record of a walk. -/
structure Walk where
  /-- What the rules found so far, the last in front. -/
  found : List Finding
  /-- How many activities were visited. -/
  count : Nat
  /-- Their types, each once, in the order of their first use. -/
  types : List String
  /-- The calls by the identifier of the called workflow, only the first of each. -/
  calls : List (String × Call)
  deriving DecidableEq

namespace Walk

def start : Walk := ⟨[], 0, [], []⟩

/-- The calls with that of a further activity, unless an earlier one calls the same. -/
def noteCall (a : Activity) (calls : List (String × Call)) : List (String × Call) :=
  match a.workflowId with
  | none => calls
  | some id => if (calls.lookup id).isSome then calls else (id, a.call) :: calls

/-- The types with that of a further activity, unless it is known. -/
def noteType (a : Activity) (types : List String) : List String :=
  match a.type with
  | none => types
  | some type => if types.contains type then types else types ++ [type]

/-- Visits one activity. -/
def enter (w : Walk) (a : Activity) : Walk where
  found := (Rules.activity a).reverse ++ w.found
  count := w.count + 1
  types := noteType a w.types
  calls := if a.isSubworkflow then noteCall a w.calls else w.calls

mutual

/-- Visits a node and all nodes below it. -/
def visit (w : Walk) : Action → Walk
  | ⟨activity, blocks, actions⟩ => visitAll (visitAll (w.enter activity) blocks) actions

/-- Visits the nodes of a forest one after the other. -/
def visitAll (w : Walk) : List Action → Walk
  | [] => w
  | a :: rest => visitAll (visit w a) rest

end

end Walk

/-- The record of the walk over all actions. -/
def Document.walk (d : Document) : Walk := Walk.start.visitAll d.forest

namespace Rules

def activitiesOverview (mode : Mode) : Finding :=
  Finding.info "ACT001" "Activities Overview" mode.remark

def noActivities : Finding := Finding.info "ACT010" "No Activities Found" "N/A"

/-- The findings on the activities, in order. -/
def activities (mode : Mode) (d : Document) : List Finding :=
  activitiesOverview mode :: if d.forest.isEmpty then [noActivities] else d.walk.found.reverse

/-- The numbers of activities and of their types. -/
def statistics (d : Document) : List Finding :=
  let types := d.walk.types
  [Finding.info "STAT001" "Total Actions" (toString d.walk.count),
    (Finding.info "STAT002" "Unique Action Types" (toString types.length)).withMoreInfo
      ("Types: " ++ ", ".intercalate types)]

end Rules

end WorkflowLint
