import WorkflowLint.Proofs.Rules.Activities

/-!
# Resolution of atomic workflows

`Node.resolution` judges a reference by the nodes of a document alone: the first of them that calls
the referenced workflow speaks for it, in the order of `Json.nodes`. The walk keeps an index of the
first calls instead (`Walk.Records.calls`); both give the same finding (`atomic_walk`).
-/

set_option autoImplicit false

namespace WorkflowLint

namespace Json

/-- A string refers to a workflow by itself, any other value by its compact text. -/
def referenceText : Json → String
  | .str id => id
  | v => v.settle.compact

/-- The references of a document to atomic workflows. -/
def references (v : Json) : List String := (v.itemsAt "atomic_workflows").map referenceText

end Json

namespace Node

def baseType? (node : Json) : Option String := (node.get? "base_type").bind Json.string?

def workflowId? (node : Json) : Option String := (property? node "workflow_id").bind Json.string?

/-- The node is a subworkflow that calls the workflow with this identifier. -/
def calls (id : String) (node : Json) : Bool :=
  baseType? node == some "subworkflow" && workflowId? node == some id

/-- The finding on a reference in a document with these nodes. -/
def resolution (nodes : List Json) (reference : String) : Finding :=
  match nodes.find? (calls reference) with
  | some node =>
    ⟨"ATM001", .info, title node, "Resolved",
      some ("Continue on Failure: " ++ if flag node "continue_on_failure" then "Yes" else "No")⟩
  | none => ⟨"ATM002", .error, reference, "Failed to Resolve", none⟩

end Node

namespace Activity

theorem baseType_ofNode (node : Json) : (ofNode node).baseType = Node.baseType? node :=
  Members.string?_fields node "base_type"

theorem workflowId_ofNode (node : Json) : (ofNode node).workflowId = Node.workflowId? node := by
  show ((Members.object node.fields "properties").lookup "workflow_id").bind Json.string? = _
  rw [Members.lookup_object_fields]
  unfold Node.workflowId? Node.property?
  cases node.at? ["properties", "workflow_id"] <;> simp

theorem calls_ofNode (id : String) (node : Json) : (ofNode node).calls id = Node.calls id node := by
  rw [calls, isSubworkflow, baseType_ofNode, workflowId_ofNode, Node.calls]

theorem call_ofNode (node : Json) :
    (ofNode node).call = ⟨Node.title node, Node.flag node "continue_on_failure"⟩ := by
  have onFailure : (ofNode node).continueOnFailure.isTruthy = _ :=
    isTruthy_property node "continue_on_failure"
  rw [call, shownName_ofNode, onFailure]

end Activity

namespace Document

theorem atomicReferences_fields (v : Json) :
    (Document.ofMembers v.fields).atomicReferences = v.references := by
  have listed : (Document.ofMembers v.fields).atomicWorkflows.present? =
      ((v.get? "atomic_workflows").bind Json.items?).map (List.map Json.settle) := by
    have present : (Members.field v.fields "atomic_workflows" Json.items?).present? = _ :=
      Members.present?_field v "atomic_workflows" rfl
    refine present.trans ?_
    simp only [Json.items?_settle]
    cases v.get? "atomic_workflows" <;> rfl
  have text (w : Json) : (match w.settle with | .str id => id | x => x.compact) =
      w.referenceText := by
    cases w <;> rfl
  rw [atomicReferences, listed, Json.references, Json.itemsAt]
  cases (v.get? "atomic_workflows").bind Json.items? with
  | none => rfl
  | some items =>
    simp only [Option.map_some, Option.getD_some, List.map_map]
    exact List.map_congr_left fun w _ => text w

/-- The index of calls that a walk leaves answers like the list of the nodes. -/
theorem atomic_walk (v : Json) (reference : String) :
    Rules.atomic (Document.ofMembers v.fields).walk.calls reference =
      Node.resolution v.actionNodes reference := by
  have indexed := (Document.records_walk (Document.ofMembers v.fields)).calls reference
  have caller : Activity.calls reference ∘ Activity.ofNode = Node.calls reference :=
    funext (Activity.calls_ofNode reference)
  rw [activities_fields, List.find?_map, caller] at indexed
  unfold Rules.atomic Node.resolution
  rw [indexed]
  cases v.actionNodes.find? (Node.calls reference) with
  | none => rfl
  | some node =>
    simp only [Option.map_some, Activity.call_ofNode]
    exact Finding.withMoreInfo_of_ne_empty _ (Finding.append_ne_empty (by decide) _)

end Document

theorem Rules.atomics_fields (v : Json) :
    atomics (Document.ofMembers v.fields) =
      if v.references = [] then [⟨"ATM003", .info, "No Atomic Actions Found", "N/A", none⟩]
      else v.references.map (Node.resolution v.actionNodes) := by
  have resolved := funext (Document.atomic_walk v)
  rw [atomics, Document.atomicReferences_fields, resolved]
  simp only [List.isEmpty_iff]
  rfl

/-- **References are resolved by their first caller.** There is one finding for each reference, in
the order of the references; it shows the first node in pre-order that calls the workflow, and is an
error where no node does. -/
theorem atomics_of_report {text : String} {config : Config} {report : Report}
    (h : analyze text config = .ok report) :
    ∃ members, Json.ofText text = .ok (.obj members) ∧
      report.inBucket .atomics =
        if (Json.obj members).references = [] then
          [⟨"ATM003", .info, "No Atomic Actions Found", "N/A", none⟩]
        else (Json.obj members).references.map (Node.resolution (Json.obj members).actionNodes) := by
  obtain ⟨members, flag, hread, -, rfl⟩ := exists_of_analyze_eq_ok h
  refine ⟨members, hread, ?_⟩
  unfold Json.report
  rw [Document.inBucket_report, Document.bucketFindings, Rules.atomics_fields]

/-- Workflow 7 has three callers, the first of them below a node that calls nothing. The numeral 7
means the same reference; a node that is no subworkflow names workflow 8. -/
def callingWorkflow : Json :=
  .obj [("atomic_workflows", .arr [.str "7", .num (.int 7), .str "8", .str "7", .null]),
    ("workflow", .obj [
      ("properties", .obj [("atomic", .obj [("is_atomic", .bool false)])]),
      ("actions", .arr [
        .obj [
          ("base_type", .str "activity"),
          ("properties", .obj [("workflow_id", .str "8")]),
          ("actions", .arr [.obj [
            ("base_type", .str "subworkflow"),
            ("properties", .obj [("workflow_id", .str "7"), ("display_name", .str "second")])]]),
          ("blocks", .arr [.obj [
            ("base_type", .str "subworkflow"),
            ("properties", .obj [("workflow_id", .str "7"), ("display_name", .str "first"),
              ("continue_on_failure", .bool true)])]])],
        .obj [
          ("base_type", .str "subworkflow"),
          ("properties", .obj [("workflow_id", .str "7"), ("display_name", .str "third")])]])])]

example : (callingWorkflow.references.map (Node.resolution callingWorkflow.actionNodes)).map
      (fun f => (f.code, f.title)) =
    [("ATM001", "first"), ("ATM001", "first"), ("ATM002", "8"), ("ATM001", "first"),
      ("ATM002", "null")] := by
  decide +kernel

theorem exists_report_callingWorkflow :
    ∃ report, analyze callingWorkflow.compact .builtIn = .ok report := by
  apply exists_report_of_gap?
  rw [Json.ofText_compact]
  decide +kernel

theorem atomics_of_report_callingWorkflow :
    ∃ report members, analyze callingWorkflow.compact .builtIn = .ok report ∧
      Json.ofText callingWorkflow.compact = .ok (.obj members) ∧
      report.inBucket .atomics =
        if (Json.obj members).references = [] then
          [⟨"ATM003", .info, "No Atomic Actions Found", "N/A", none⟩]
        else (Json.obj members).references.map (Node.resolution (Json.obj members).actionNodes) := by
  obtain ⟨report, analyzed⟩ := exists_report_callingWorkflow
  obtain ⟨members, spec⟩ := atomics_of_report analyzed
  exact ⟨report, members, analyzed, spec⟩

end WorkflowLint
