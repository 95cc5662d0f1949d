import WorkflowLint.Proofs.Document.Nodes
import WorkflowLint.Proofs.Outcome
import WorkflowLint.Proofs.Report.Buckets
import WorkflowLint.Proofs.Walk

/-!
# Findings on the nodes of a document

`Node.findings` judges an action node by what stands in its object, without the record of a walk
and without the readers of a document. The activities of a report are these findings node by node,
in the order of `Json.nodes`.
-/

set_option autoImplicit false

namespace WorkflowLint

namespace Node

/-- What stands under a key of the properties of a node. -/
def property? (node : Json) (key : String) : Option Json := node.at? ["properties", key]

/-- The checkbox under a key of the properties is ticked. -/
def flag (node : Json) (key : String) : Bool := (property? node key).any Json.isTruthy

def type? (node : Json) : Option String := (node.get? "type").bind Json.string?

def title (node : Json) : String :=
  match property? node "display_name" with
  | some (.str name) => if name = "" then "Unnamed Action" else name
  | _ => "Unnamed Action"

/-- There is a `runtime_user`, but none that asks for the account keys of the target. -/
def overridesKeys (node : Json) : Bool :=
  (property? node "runtime_user").any fun user => !(user.get? "target_default").any Json.isTruthy

/-- The advice on a node that continues after a failure. -/
def reassurance : String :=
  "Setting continue workflow execution on failure means the workflow will continue running even " ++
    "if this activity fails. It's ok to use this if you're using a Condition Block to do some " ++
    "error handling."

/-- The findings on a node. -/
def findings (node : Json) : List Finding :=
  (if overridesKeys node then
    [⟨"ACT002", .warning, title node, "Account Key Configuration",
      some ("Most activities should have their account key set to \"Use Target's Default Account " ++
        "Keys.\" It's uncommon that a target's account keys should be overridden.")⟩]
  else []) ++
  (if type? node = some "web-service.http_request" then
    (if flag node "continue_on_failure" then
      [⟨"ACT003", .info, title node, "\"Continue Workflow Execution on Failure\" is checked",
        some ("In most cases, you probably want \"Continue on HTTP error status code\" instead. " ++
          "If you're using this option intentionally, make sure you're using a Condition " ++
          "Block to handle failures.")⟩]
    else []) ++
    (if flag node "continue_on_error_status_code" then []
    else
      [⟨"ACT004", .warning, title node, "\"Continue on HTTP error status code\" is not checked",
        some "You should check this and use a Condition Block to handle HTTP error codes."⟩])
  else if type? node = some "corejava.jsonpathquery" then
    (if flag node "continue_on_failure" then
      [⟨"ACT006", .info, title node, "\"Continue Workflow Execution on Failure\" is checked",
        some reassurance⟩]
    else
      [⟨"ACT005", .warning, title node,
        "\"Continue Workflow Execution on Failure\" is not checked",
        some ("If the JSON path query you look for isn't found, the activity will fail and your " ++
          "workflow will fail with it. If you want to avoid this, you can check continue on " ++
          "failure and use a Condition Block to check if the path query was successful.")⟩])
  else
    (if flag node "continue_on_failure" then
      [⟨"ACT007", .info, title node, "\"Continue Workflow Execution on Failure\" is checked",
        some reassurance⟩]
    else []) ++
    (if flag node "allow_auto_redirect" then
      [⟨"ACT008", .warning, title node, "\"Allow Auto Redirect\" is checked",
        some ("If you're using a web request, you should check this and use a Condition Block " ++
          "to handle redirects.")⟩]
    else [])) ++
  (if flag node "continue_on_error_status_code" then
    [⟨"ACT009", .warning, title node, "\"Continue on HTTP error status code\" is checked",
      some "You should check this and use a Condition Block to handle HTTP error codes."⟩]
  else [])

end Node

namespace Members

/-- Two steps into a value are two look-ups in its fields. -/
theorem lookup_object_fields (v : Json) (key key' : String) :
    (object v.fields key).lookup key' = (v.at? [key, key']).map Json.settle := by
  rw [object_fields]
  cases h : v.get? key with
  | none => simp [Json.at?, h]
  | some w =>
    simp only [Option.map_some, Option.getD_some, Json.lookup_fields, Json.at?, h, Option.bind_some]
    cases w.get? key' <;> rfl

end Members

namespace Activity

theorem type_ofNode (node : Json) : (ofNode node).type = Node.type? node :=
  Members.string?_fields node "type"

theorem shownName_ofNode (node : Json) : (ofNode node).shownName = Node.title node := by
  have name : (ofNode node).displayName = (Node.property? node "display_name").bind Json.string? := by
    show ((Members.object node.fields "properties").lookup "display_name").bind Json.string? = _
    rw [Members.lookup_object_fields]
    unfold Node.property?
    cases node.at? ["properties", "display_name"] <;> simp
  unfold shownName Node.title
  rw [name]
  cases Node.property? node "display_name" with
  | none => rfl
  | some v => cases v <;> simp [Json.string?]

/-- A property is truthy where the value in the text is. -/
theorem isTruthy_property (node : Json) (key : String) :
    (Members.property (Members.object node.fields "properties") key).isTruthy =
      Node.flag node key := by
  rw [Members.property, Members.lookup_object_fields, Json.isTruthy_canonical, Node.flag,
    Node.property?]
  cases node.at? ["properties", key] with
  | none => rfl
  | some v => exact Json.isTruthy_settle v

theorem overridesAccountKeys_ofNode (node : Json) :
    Rules.overridesAccountKeys (ofNode node) = Node.overridesKeys node := by
  have user : (ofNode node).runtimeUser =
      Field.ofJson? RuntimeUser.ofJson? ((Node.property? node "runtime_user").map Json.settle) := by
    show Field.ofJson? _ _ = _
    rw [Members.lookup_object_fields]
    rfl
  unfold Rules.overridesAccountKeys Node.overridesKeys
  rw [user]
  cases Node.property? node "runtime_user" with
  | none => rfl
  | some v =>
    cases v with
    | obj members =>
      have settled : (Json.obj members).settle = .obj (Json.obj members).fields :=
        Json.settle_of_isObject rfl
      have asks := Members.isTruthy_property_fields (.obj members) "target_default"
      rw [Option.map_some, settled, Option.any_some, ← asks]
      rfl
    | _ => rfl

/-- The rules find on an activity what its node shows. -/
theorem findings_ofNode (node : Json) : Rules.activity (ofNode node) = Node.findings node := by
  have onFailure : (ofNode node).continueOnFailure.isTruthy = _ :=
    isTruthy_property node "continue_on_failure"
  have onStatus : (ofNode node).continueOnErrorStatusCode.isTruthy = _ :=
    isTruthy_property node "continue_on_error_status_code"
  have redirect : (ofNode node).allowAutoRedirect.isTruthy = _ :=
    isTruthy_property node "allow_auto_redirect"
  unfold Rules.activity Rules.accountKeys Rules.byType Rules.httpRequest Rules.jsonPathQuery
    Rules.anyOther Rules.statusCode Node.findings
  rw [overridesAccountKeys_ofNode, type_ofNode, shownName_ofNode, onFailure, onStatus, redirect]
  -- no finding has an empty detail
  simp (disch := decide) only [Rules.keysOverridden, Rules.requestContinues,
    Rules.requestStopsOnStatus, Rules.queryStops, Rules.queryContinues, Rules.otherContinues,
    Rules.redirects, Rules.continuesOnStatus, Finding.withMoreInfo_of_ne_empty]
  rfl

end Activity

namespace Json

/-- The types of the nodes, each once. -/
def actionTypes (v : Json) : List String := (v.actionNodes.filterMap Node.type?).eraseDups

/-- What is said in front of the findings on activities. -/
def overview (isAtomic : Bool) : Finding :=
  ⟨"ACT001", .info, "Activities Overview",
    if isAtomic then
      "This is an atomic action, specific checks for atomic activities can be applied here."
    else "This is a normal workflow, specific checks for workflow activities can be applied here.",
    none⟩

/-- The findings on the activities of a document: the overview, and then node by node. -/
def activityFindings (v : Json) (isAtomic : Bool) : List Finding :=
  overview isAtomic ::
    if v.actionNodes = [] then [⟨"ACT010", .info, "No Activities Found", "N/A", none⟩]
    else v.actionNodes.flatMap Node.findings

end Json

/-- Whoever records the activities of a document knows the numbers of its nodes and types. -/
theorem Walk.Records.numbers {v : Json} {w : Walk}
    (h : Records (Document.ofMembers v.fields).activities w) :
    w.count = v.actionNodes.length ∧ w.types = v.actionTypes := by
  have type : Activity.type ∘ Activity.ofNode = Node.type? := funext Activity.type_ofNode
  rw [h.count, h.types, Document.activities_fields, List.length_map, List.filterMap_map, type]
  exact ⟨rfl, rfl⟩

namespace Rules

theorem activities_fields (mode : Mode) (v : Json) :
    activities mode (Document.ofMembers v.fields) = v.activityFindings mode.isAtomic := by
  have overview : activitiesOverview mode = Json.overview mode.isAtomic := by cases mode <;> rfl
  have walked := (Document.records_walk (Document.ofMembers v.fields)).found
  have nodes := Document.activities_fields v
  have empty := Document.forest_fields_isEmpty v
  rw [activities, overview, walked, nodes, empty, List.reverse_reverse, List.flatMap_map]
  simp only [Activity.findings_ofNode, List.isEmpty_iff]
  rfl

theorem statistics_fields (v : Json) :
    statistics (Document.ofMembers v.fields) =
      [Finding.info "STAT001" "Total Actions" (toString v.actionNodes.length),
        (Finding.info "STAT002" "Unique Action Types" (toString v.actionTypes.length)).withMoreInfo
          ("Types: " ++ ", ".intercalate v.actionTypes)] := by
  obtain ⟨count, types⟩ := (Document.records_walk (Document.ofMembers v.fields)).numbers
  rw [statistics, count, types]

end Rules

/-- The activities of a report are the findings on the nodes, one after the other. -/
theorem activities_of_report {text : String} {config : Config} {report : Report}
    (h : analyze text config = .ok report) :
    ∃ members flag, Json.ofText text = .ok (.obj members) ∧
      (Json.obj members).at? Gap.isAtomic.path = some (.bool flag) ∧
      report.inBucket .activities = (Json.obj members).activityFindings flag := by
  obtain ⟨members, flag, hread, hflag, rfl⟩ := exists_of_analyze_eq_ok h
  refine ⟨members, flag, hread, hflag, ?_⟩
  unfold Json.report
  rw [Document.inBucket_report, Document.bucketFindings, Rules.activities_fields, Mode.isAtomic_ofBool]

/-- A workflow with nodes on two levels, under both keys, and with values that are no nodes. -/
def nestedWorkflow : Json :=
  .obj [("workflow", .obj [
    ("properties", .obj [("atomic", .obj [("is_atomic", .bool false)])]),
    ("actions", .arr [
      .null,
      .obj [
        ("type", .str "web-service.http_request"),
        ("properties", .obj [("display_name", .str "Fetch"), ("runtime_user", .null)]),
        ("actions", .arr [.obj [("type", .str "corejava.jsonpathquery")]]),
        ("blocks", .arr [
          .str "x",
          .obj [("properties", .obj [("continue_on_failure", .str "0")])]])]])])]

example : (nestedWorkflow.activityFindings false).map (fun f => (f.code, f.title)) =
    [("ACT001", "Activities Overview"), ("ACT002", "Fetch"), ("ACT004", "Fetch"),
      ("ACT007", "Unnamed Action"), ("ACT005", "Unnamed Action")] := by
  decide +kernel

theorem exists_report_nestedWorkflow :
    ∃ report, analyze nestedWorkflow.compact .builtIn = .ok report := by
  apply exists_report_of_gap?
  rw [Json.ofText_compact]
  decide +kernel

theorem activities_of_report_nestedWorkflow :
    ∃ report members flag, analyze nestedWorkflow.compact .builtIn = .ok report ∧
      Json.ofText nestedWorkflow.compact = .ok (.obj members) ∧
      (Json.obj members).at? Gap.isAtomic.path = some (.bool flag) ∧
      report.inBucket .activities = (Json.obj members).activityFindings flag := by
  obtain ⟨report, analyzed⟩ := exists_report_nestedWorkflow
  obtain ⟨members, flag, spec⟩ := activities_of_report analyzed
  exact ⟨report, members, flag, analyzed, spec⟩

end WorkflowLint
