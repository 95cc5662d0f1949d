import WorkflowLint.Analysis

/-!
# The log of an analysis

What an analysis has to tell about its progress, in order. Events are data; `level`, `message` and
`fields` are how a log shows them. The walk over the actions tells of each activity as it visits it
(`Narration`), with the count of its record. A text that is no document leaves no event.
-/

set_option autoImplicit false

namespace WorkflowLint

inductive Event where
  | modeDetermined (mode : Mode)
  | unrecognized (failure : Failure)
  | incompleteVariable (missing : List String)
  | visiting (index : Nat) (type : Option String) (name : String)
  | subworkflow (name : String) (continueOnFailure : Bool)
  /-- A subworkflow that does not say which workflow it calls. -/
  | unidentified (name : String)
  | walkComplete (actions types : Nat)
  | analysisComplete (summary : Summary)

namespace Event

/-- How serious an event is. -/
inductive Level where
  | debug
  | warn
  deriving DecidableEq

def Level.name : Level → String
  | .debug => "DEBUG"
  | .warn => "WARN"

def level : Event → Level
  | .unrecognized _ => .warn
  | _ => .debug

def message : Event → String
  | .modeDetermined _ => "workflow mode determined"
  | .unrecognized _ => "workflow structure not recognized"
  | .incompleteVariable _ => "variable is missing required properties"
  | .visiting .. => "visiting action"
  | .subworkflow .. => "subworkflow"
  | .unidentified _ => "subworkflow has no workflow_id"
  | .walkComplete .. => "action walk complete"
  | .analysisComplete _ => "analysis complete"

/-- Names in quotes, between brackets. -/
def quotedList (names : List String) : String :=
  "[" ++ ", ".intercalate (names.map fun name => "\"" ++ name ++ "\"") ++ "]"

/-- The fields by name, in the order of the names. -/
def fields : Event → List (String × String)
  | .modeDetermined mode => [("is_atomic", toString mode.isAtomic)]
  | .unrecognized failure => [("error", failure.display)]
  | .incompleteVariable missing => [("missing", quotedList missing)]
  | .visiting index type name =>
    [("action_type", type.getD "<none>"), ("index", toString index), ("name", name)]
  | .subworkflow name continueOnFailure =>
    [("continue_on_failure", toString continueOnFailure), ("name", name)]
  | .unidentified name => [("name", name)]
  | .walkComplete actions types => [("actions", toString actions), ("types", toString types)]
  | .analysisComplete summary =>
    [("error", toString summary.error), ("info", toString summary.info),
      ("success", toString summary.success), ("warning", toString summary.warning)]

/-- The events of the variables: one for each that lacks a required field. -/
def ofVariables (d : Document) : List Event :=
  let declared := (d.workflow.present?.bind fun body => body.declarations.present?).getD []
  (declared.filter fun v => (Rules.Declared.ofVariable? v).isNone).map fun v =>
    .incompleteVariable (Rules.missingFields v)

/-- The events of the activity that is visited as the one with this number. -/
def ofActivity (index : Nat) (a : Activity) : List Event :=
  .visiting index a.type a.shownName ::
    if a.isSubworkflow then
      .subworkflow a.shownName a.continueOnFailure.isTruthy ::
        if a.workflowId.isNone then [.unidentified a.shownName] else []
    else []

end Event

/-- A walk that tells what it visits. -/
structure Narration where
  walk : Walk
  /-- The events so far, the last in front. -/
  told : List Event

namespace Narration

def start : Narration := ⟨Walk.start, []⟩

/-- Visits one activity and tells so, with the number of activities visited by then. -/
def enter (n : Narration) (a : Activity) : Narration :=
  let walk := n.walk.enter a
  ⟨walk, (Event.ofActivity walk.count a).reverse ++ n.told⟩

mutual

/-- Visits a node and all nodes below it. -/
def visit (n : Narration) : Action → Narration
  | ⟨activity, blocks, actions⟩ => visitAll (visitAll (n.enter activity) blocks) actions

/-- Visits the nodes of a forest one after the other. -/
def visitAll (n : Narration) : List Action → Narration
  | [] => n
  | a :: rest => visitAll (visit n a) rest

end

end Narration

/-- The narration of the walk over all actions. -/
def Document.narration (d : Document) : Narration := Narration.start.visitAll d.forest

/-- The events of the analysis of a document. -/
def Document.events (d : Document) (config : Config) : List Event :=
  match d.mode? with
  | .error gap => [.unrecognized ⟨.shape, gap.message⟩]
  | .ok mode =>
    let walked := d.narration
    .modeDetermined mode :: Event.ofVariables d ++ walked.told.reverse ++
      [.walkComplete walked.walk.count walked.walk.types.length,
        .analysisComplete (Report.ofPushes (d.findings config mode)).summary]

/-- The events of the analysis of a text. -/
def events (text : String) (config : Config) : List Event :=
  match Document.ofText text with
  | .error _ => []
  | .ok d => d.events config

end WorkflowLint
