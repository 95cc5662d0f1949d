import WorkflowLint.Proofs.Rules.Atomics
import WorkflowLint.Proofs.Rules.Verdicts

/-!
# Faults of a document

Four things in a document are errors: targets of its own, global variables, a variable without one
of its required texts, a reference that no subworkflow resolves. `Json.verdictsIn` lists the verdicts
of a report bucket by bucket, as a function of the value that was read; counting them gives the
summary in closed form.
-/

set_option autoImplicit false

namespace WorkflowLint

namespace Json

def isNull : Json → Bool
  | .null => true
  | _ => false

/-- Targets are written into the document. -/
def hasTargets (v : Json) : Bool := (v.get? "targets").any fun w => !w.isNull

/-- Global variables were left in the document. -/
def hasGlobals (v : Json) : Bool := (v.at? ["workflow", "variables"]).any isNull

/-- The declared variables, if there is a list of them. -/
def variables? (v : Json) : Option (List Json) := (v.at? ["workflow", "variables"]).bind items?

/-- The properties of a declaration hold a text under the key, and not an empty one. -/
def declares (declaration : Json) (key : String) : Bool :=
  match declaration.at? ["properties", key] with
  | some (.str text) => text ≠ ""
  | _ => false

/-- A declaration has all three required texts. -/
def isComplete (declaration : Json) : Bool :=
  ["name", "scope", "description"].all declaration.declares

/-- The variables that lack a required text. -/
def incomplete (v : Json) : List Json := (v.variables?.getD []).filter fun w => !w.isComplete

/-- The references that no node resolves. -/
def unresolved (v : Json) : List String :=
  v.references.filter fun r => !v.actionNodes.any (Node.calls r)

/-- The verdicts on a document in one bucket. -/
def verdictsIn (v : Json) : Bucket → List Severity
  | .properties => [.info, .info]
  | .variables =>
    (match v.variables? with
      | some vs => vs.map fun w => if w.isComplete then .info else .error
      | none => [.info]) ++ [if v.hasGlobals then .error else .success]
  | .triggers => [.info]
  | .targets => [if v.hasTargets then .error else .success]
  | .activities =>
    .info :: if v.actionNodes.isEmpty then [.info]
      else (v.actionNodes.filter fun n => Node.flag n "continue_on_failure").map fun _ => .info
  | .atomics =>
    if v.references.isEmpty then [.info]
    else v.references.map fun r => if v.actionNodes.any (Node.calls r) then .info else .error
  | .statistics => [.info, .info]

end Json

/-! ### What the rules see of a value -/

theorem Field.isSet_ofJson? (v : Option Json) :
    (Field.ofJson? some v).isSet = v.any fun w => !w.isNull := by
  cases v with
  | none => rfl
  | some w => cases w <;> rfl

theorem Field.isNull_ofJson? {α : Type} (read? : Json → Option α) (v : Option Json) :
    (Field.ofJson? read? v).isNull = v.any Json.isNull := by
  cases v with
  | none => rfl
  | some w =>
    cases w with
    | null => rfl
    | _ => simp only [Field.ofJson?]; split <;> rfl

theorem Json.isNull_settle (v : Json) : v.settle.isNull = v.isNull := by
  cases v <;> rfl

/-- The variable of a declaration is read from the object under `properties`. -/
theorem Variable.ofJson?_settle (w : Json) :
    Variable.ofJson? w.settle = ((w.get? "properties").filter Json.isObject).map fun p =>
      { name := (p.get? "name").bind Json.string?
        scope := (p.get? "scope").bind Json.string?
        description := (p.get? "description").bind Json.string?
        type := (p.get? "type").bind Json.string?
        isRequired := Members.property p.fields "is_required" } := by
  unfold Variable.ofJson?
  by_cases object : w.isObject
  · simp only [Json.members?_settle, if_pos object, Option.bind_eq_bind, Option.bind_some,
      Json.lookup_fields]
    cases w.get? "properties" with
    | none => rfl
    | some p =>
      simp only [Option.map_some, Option.bind_some, Json.members?_settle, Option.filter_some]
      split
      · simp only [Option.bind_some, Option.map_some, Members.string?_fields]
        rfl
      · rfl
  · rw [Json.get?_of_not_isObject object, Json.members?_settle, if_neg object]
    rfl

namespace Rules

theorem isSome_nonEmpty? (text : Option Json) :
    (nonEmpty? (text.bind Json.string?)).isSome =
      match text with
      | some (.str s) => decide (s ≠ "")
      | _ => false := by
  cases text with
  | none => rfl
  | some w =>
    cases w with
    | str s => by_cases h : s = "" <;> simp [nonEmpty?, Json.string?, h]
    | _ => rfl

theorem isSome_ofVariable? (v : Variable) :
    (Declared.ofVariable? (some v)).isSome =
      ((nonEmpty? v.name).isSome && (nonEmpty? v.scope).isSome &&
        (nonEmpty? v.description).isSome) := by
  simp only [Declared.ofVariable?, Option.bind_eq_bind, Option.bind_some]
  cases nonEmpty? v.name with
  | none => rfl
  | some name =>
    cases nonEmpty? v.scope with
    | none => rfl
    | some scope => cases nonEmpty? v.description <;> rfl

/-- A variable has its required fields if its declaration has the required texts. -/
theorem isSome_declared (w : Json) :
    (Declared.ofVariable? (Variable.ofJson? w.settle)).isSome = w.isComplete := by
  rw [Variable.ofJson?_settle]
  unfold Json.isComplete Json.declares
  cases h : w.get? "properties" with
  | none => simp [Json.at?, h, Declared.ofVariable?]
  | some p =>
    by_cases object : p.isObject
    · simp [Json.at?, h, object, Option.filter_some, isSome_ofVariable?, isSome_nonEmpty?,
        Bool.and_assoc]
    · simp [Json.at?, h, object, Option.filter_some, Json.get?_of_not_isObject object,
        Declared.ofVariable?]

end Rules

namespace Document

theorem isSet_targets_fields (v : Json) :
    (Document.ofMembers v.fields).targets.isSet = v.hasTargets := by
  show (Field.ofJson? some (v.fields.lookup "targets")).isSet = _
  rw [Field.isSet_ofJson?, Json.lookup_fields, Json.hasTargets]
  cases v.get? "targets" with
  | none => rfl
  | some w => rw [Option.map_some, Option.any_some, Option.any_some, Json.isNull_settle]

theorem isNull_declared_fields (v : Json) :
    ((Document.ofMembers v.fields).workflow.present?.map WorkflowBody.declarations).any
      Field.isNull = v.hasGlobals := by
  rw [declared_fields, Json.hasGlobals]
  cases h : v.get? "workflow" with
  | none => simp [Json.at?, h]
  | some w =>
    by_cases object : w.isObject
    · simp only [Option.filter_some, if_pos object, Option.map_some, Option.any_some,
        Members.field, Field.isNull_ofJson?, Json.lookup_fields, Json.at?, h, Option.bind_some]
      cases w.get? "variables" with
      | none => rfl
      | some x => exact Json.isNull_settle x
    · simp [Json.at?, h, Option.filter_some, object, Json.get?_of_not_isObject object]

theorem present?_declared_fields (v : Json) :
    ((Document.ofMembers v.fields).workflow.present?.map WorkflowBody.declarations).bind
      Field.present? = v.variables?.map fun vs => vs.map fun w => Variable.ofJson? w.settle := by
  rw [declared_fields, Json.variables?]
  cases h : v.get? "workflow" with
  | none => simp [Json.at?, h]
  | some w =>
    by_cases object : w.isObject
    · simp only [Option.filter_some, if_pos object, Option.map_some, Option.bind_some, Json.at?, h]
      rw [Members.present?_field w "variables" rfl]
      cases w.get? "variables" with
      | none => rfl
      | some x =>
        simp only [Option.bind_some, Json.items?_settle]
        cases x.items? <;> simp
    · simp [Json.at?, h, Option.filter_some, object, Json.get?_of_not_isObject object]

theorem isSome_lookup_calls (v : Json) (reference : String) :
    ((Document.ofMembers v.fields).walk.calls.lookup reference).isSome =
      v.actionNodes.any (Node.calls reference) := by
  have caller : Activity.calls reference ∘ Activity.ofNode = Node.calls reference :=
    funext (Activity.calls_ofNode reference)
  rw [(records_walk _).calls, activities_fields, List.find?_map, caller, Option.isSome_map,
    Option.isSome_map, List.isSome_find?]

/-- The verdicts on a document are those on the value it was read from. -/
theorem verdicts_bucketFindings (v : Json) (config : Config) (mode : Mode) (b : Bucket) :
    verdicts ((Document.ofMembers v.fields).bucketFindings config mode b) = v.verdictsIn b :=
  match b with
  | .properties => Rules.verdicts_properties mode _
  | .variables => by
    rw [bucketFindings, Rules.verdicts_declarations, isNull_declared_fields,
      present?_declared_fields, Json.verdictsIn]
    cases v.variables? with
    | none => rfl
    | some vs => simp only [Option.map_some, List.map_map, Function.comp_def, Rules.isSome_declared]
  | .triggers => Rules.verdicts_triggers _
  | .targets => by
    rw [bucketFindings, Rules.verdicts_targets, isSet_targets_fields, Json.verdictsIn]
  | .activities => by
    have continues (n : Json) : (Activity.ofNode n).continueOnFailure.isTruthy =
        Node.flag n "continue_on_failure" :=
      Activity.isTruthy_property n "continue_on_failure"
    rw [bucketFindings, Rules.verdicts_activities, forest_fields_isEmpty, activities_fields,
      Json.verdictsIn, List.filter_map, List.map_map]
    simp only [Function.comp_def, continues]
  | .atomics => by
    rw [bucketFindings, Rules.verdicts_atomics, atomicReferences_fields, Json.verdictsIn]
    simp only [isSome_lookup_calls]
  | .statistics => Rules.verdicts_statistics _

end Document

/-! ### The summary -/

theorem count_verdicts {α : Type} (p : α → Bool) (list : List α) :
    let verdicts := list.map fun a => if p a then Severity.info else .error
    verdicts.count .success = 0 ∧ verdicts.count .error = (list.filter fun a => !p a).length ∧
      verdicts.count .info = list.length - (list.filter fun a => !p a).length := by
  induction list with
  | nil => exact ⟨rfl, rfl, rfl⟩
  | cons a rest ih =>
    obtain ⟨success, error, info⟩ := ih
    have part := List.length_filter_le (fun a => !p a) rest
    cases h : p a with
    | true => simp [h, success, error, info]; omega
    | false => simp [h, success, error, info]

namespace Json

theorem count_variables (v : Json) :
    (v.verdictsIn .variables).count .success = (if v.hasGlobals then 0 else 1) ∧
      (v.verdictsIn .variables).count .error =
        v.incomplete.length + (if v.hasGlobals then 1 else 0) ∧
      (v.verdictsIn .variables).count .info =
        match v.variables? with
        | some vs => vs.length - v.incomplete.length
        | none => 1 := by
  unfold verdictsIn incomplete
  cases v.variables? with
  | none => cases v.hasGlobals <;> exact ⟨rfl, rfl, rfl⟩
  | some vs =>
    obtain ⟨success, error, info⟩ := count_verdicts isComplete vs
    cases v.hasGlobals <;> simp [success, error, info]

theorem count_targets (v : Json) :
    (v.verdictsIn .targets).count .success = (if v.hasTargets then 0 else 1) ∧
      (v.verdictsIn .targets).count .error = (if v.hasTargets then 1 else 0) ∧
      (v.verdictsIn .targets).count .info = 0 := by
  unfold verdictsIn
  cases v.hasTargets <;> exact ⟨rfl, rfl, rfl⟩

theorem count_activities (v : Json) :
    (v.verdictsIn .activities).count .success = 0 ∧ (v.verdictsIn .activities).count .error = 0 ∧
      (v.verdictsIn .activities).count .info = 1 +
        if v.actionNodes = [] then 1
        else (v.actionNodes.filter fun n => Node.flag n "continue_on_failure").length := by
  unfold verdictsIn
  cases v.actionNodes with
  | nil => exact ⟨rfl, rfl, rfl⟩
  | cons n rest => simp [List.map_const', List.count_replicate, Nat.add_comm]

theorem count_atomics (v : Json) :
    (v.verdictsIn .atomics).count .success = 0 ∧
      (v.verdictsIn .atomics).count .error = v.unresolved.length ∧
      (v.verdictsIn .atomics).count .info =
        if v.references = [] then 1 else v.references.length - v.unresolved.length := by
  have counted := count_verdicts (fun r => v.actionNodes.any (Node.calls r)) v.references
  unfold verdictsIn unresolved
  cases h : v.references with
  | nil => exact ⟨rfl, rfl, rfl⟩
  | cons r rest =>
    rw [h] at counted
    exact counted

/-- The other buckets hold five notes. -/
theorem count_notes (v : Json) (s : Severity) :
    (v.verdictsIn .properties).count s + (v.verdictsIn .triggers).count s +
      (v.verdictsIn .statistics).count s = if s = .info then 5 else 0 := by
  cases s <;> rfl

end Json

/-- The summary of a report counts the verdicts. -/
theorem Json.get_summary_report (v : Json) (config : Config) (flag : Bool) {s : Severity}
    (h : s ≠ .warning) :
    (v.report config flag).summary.get s =
      (Bucket.all.map fun b => (v.verdictsIn b).count s).sum := by
  unfold Json.report
  simp only [Report.get_summary_ofPushes, Document.inBucket_report,
    Severity.count_eq_count_verdicts h, Document.verdicts_bucketFindings]

/-- Every bucket gets a verdict. -/
theorem Json.inBucket_report_ne_nil (v : Json) (config : Config) (flag : Bool) (b : Bucket) :
    (v.report config flag).inBucket b ≠ [] := by
  intro empty
  have none : verdicts ((v.report config flag).inBucket b) = v.verdictsIn b := by
    unfold Json.report
    rw [Document.inBucket_report, Document.verdicts_bucketFindings]
  rw [empty] at none
  have some : v.verdictsIn b ≠ [] := by
    cases b with
    | atomics =>
      unfold Json.verdictsIn
      cases v.references <;> simp
    | _ => simp [Json.verdictsIn]
  exact some none.symm

namespace Json

/-- The report sums the document up: its counts are those of the faults and of what is noted, it has
errors if there is one of the four faults, and no bucket of it is empty. -/
structure SummedUpBy (v : Json) (report : Report) : Prop where
  success : report.summary.success =
    (if v.hasTargets then 0 else 1) + (if v.hasGlobals then 0 else 1)
  error : report.summary.error =
    (if v.hasTargets then 1 else 0) + (if v.hasGlobals then 1 else 0) +
      v.incomplete.length + v.unresolved.length
  info : report.summary.info = 6 +
    (match v.variables? with
      | some vs => vs.length - v.incomplete.length
      | none => 1) +
    (if v.actionNodes = [] then 1
      else (v.actionNodes.filter fun n => Node.flag n "continue_on_failure").length) +
    (if v.references = [] then 1 else v.references.length - v.unresolved.length)
  hasErrors : report.hasErrors = true ↔
    v.hasTargets ∨ v.hasGlobals ∨ v.incomplete ≠ [] ∨ v.unresolved ≠ []
  inBucket : ∀ b, report.inBucket b ≠ []

/-- Errors are counted only where one of the four faults is. -/
theorem hasErrors_iff {v : Json} {report : Report}
    (h : report.summary.error = (if v.hasTargets then 1 else 0) + (if v.hasGlobals then 1 else 0) +
      v.incomplete.length + v.unresolved.length) :
    report.hasErrors = true ↔
      v.hasTargets ∨ v.hasGlobals ∨ v.incomplete ≠ [] ∨ v.unresolved ≠ [] := by
  rw [Report.hasErrors, decide_eq_true_iff, h, ← List.length_pos_iff, ← List.length_pos_iff]
  cases v.hasTargets <;> cases v.hasGlobals <;>
    simp only [Bool.false_eq_true, if_true, if_false, true_or, or_true, false_or, iff_true] <;>
    omega

theorem summedUpBy_report (v : Json) (config : Config) (flag : Bool) :
    v.SummedUpBy (v.report config flag) := by
  have declared := v.count_variables
  have targets := v.count_targets
  have activities := v.count_activities
  have atomics := v.count_atomics
  have notes := v.count_notes
  have counted {s : Severity} (hs : s ≠ .warning) := v.get_summary_report config flag hs
  simp only [Bucket.all, List.map_cons, List.map_nil, List.sum_cons, List.sum_nil] at counted
  have error : (v.report config flag).summary.error =
      (if v.hasTargets then 1 else 0) + (if v.hasGlobals then 1 else 0) +
        v.incomplete.length + v.unresolved.length := by
    have sum : (v.report config flag).summary.error = _ := counted (s := .error) (by decide)
    have none := notes .error
    simp only [reduceCtorEq, if_false] at none
    omega
  refine ⟨?_, error, ?_, hasErrors_iff error, v.inBucket_report_ne_nil config flag⟩
  · have sum : (v.report config flag).summary.success = _ := counted (s := .success) (by decide)
    have none := notes .success
    simp only [reduceCtorEq, if_false] at none
    omega
  · have sum : (v.report config flag).summary.info = _ := counted (s := .info) (by decide)
    have five := notes .info
    simp only [if_true] at five
    omega

end Json

/-- **The summary in closed form.** Successes, errors and notes of a report are what the document
says, whatever the configuration. -/
theorem summary_of_report {text : String} {config : Config} {report : Report}
    (h : analyze text config = .ok report) :
    ∃ members, Json.ofText text = .ok (.obj members) ∧ (Json.obj members).SummedUpBy report := by
  obtain ⟨members, flag, hread, -, rfl⟩ := exists_of_analyze_eq_ok h
  exact ⟨members, hread, (Json.obj members).summedUpBy_report config flag⟩

/-- A document with targets of its own, two incomplete variables of three and one reference of two
without a caller. -/
def faultyWorkflow : Json :=
  .obj [("targets", .arr []), ("atomic_workflows", .arr [.str "a", .str "b"]),
    ("workflow", .obj [
      ("properties", .obj [("atomic", .obj [("is_atomic", .bool true)])]),
      ("variables", .arr [
        .obj [("properties", .obj [("name", .str "Order"), ("scope", .str "local"),
          ("description", .str "The order")])],
        .obj [("properties", .obj [("name", .str ""), ("scope", .str "local")])], .null]),
      ("actions", .arr [.obj [
        ("base_type", .str "subworkflow"),
        ("properties", .obj [("workflow_id", .str "b"), ("continue_on_failure", .num (.int 1))])]])])]

example : faultyWorkflow.hasTargets = true ∧ faultyWorkflow.incomplete.length = 2 ∧
    faultyWorkflow.unresolved = ["a"] := by
  decide +kernel

theorem summary_of_report_faultyWorkflow :
    ∃ report members, analyze faultyWorkflow.compact .builtIn = .ok report ∧
      Json.ofText faultyWorkflow.compact = .ok (.obj members) ∧
      (Json.obj members).SummedUpBy report := by
  have stated : ∃ report, analyze faultyWorkflow.compact .builtIn = .ok report := by
    apply exists_report_of_gap?
    rw [Json.ofText_compact]
    decide +kernel
  obtain ⟨report, analyzed⟩ := stated
  obtain ⟨members, summed⟩ := summary_of_report analyzed
  exact ⟨report, members, analyzed, summed⟩

end WorkflowLint
