import WorkflowLint.Proofs.Document.Nodes
import WorkflowLint.Proofs.Report.Frame

/-!
# What rules see of a flag

Of the value of a flag rules see whether it is truthy and nothing else. The `seen` form of an activity
or a variable has a boolean in place of each flag and none of the properties without a meaning; what
is found on it is what is found on the activity or the variable itself. So documents whose workflows
are seen alike get the same report (`Document.report_eq_of_seen`).
-/

set_option autoImplicit false

namespace WorkflowLint

namespace Json

/-- The values that are not truthy. -/
theorem isTruthy_eq_false_iff {v : Json} : v.isTruthy = false ↔
    v = .null ∨ v = .bool false ∨ v = .str "" ∨ ∃ n : Number, n.isZero ∧ v = .num n := by
  cases v with
  | num n => simp [isTruthy]
  | _ => simp [isTruthy]

/-- The flag as rules see it. -/
def ticked (v : Json) : Json := .bool v.isTruthy

end Json

namespace Field

variable {α β : Type}

def map (f : α → β) : Field α → Field β
  | .missing => .missing
  | .null => .null
  | .invalid v => .invalid v
  | .present a => .present (f a)

theorem isNull_map (f : α → β) (x : Field α) : (x.map f).isNull = x.isNull := by
  cases x <;> rfl

theorem present?_map (f : α → β) (x : Field α) : (x.map f).present? = x.present?.map f := by
  cases x <;> rfl

end Field

/-! ### Activities -/

def RuntimeUser.seen (u : RuntimeUser) : RuntimeUser := ⟨u.targetDefault.ticked⟩

def Activity.seen (a : Activity) : Activity :=
  { a with
    continueOnFailure := a.continueOnFailure.ticked
    continueOnErrorStatusCode := a.continueOnErrorStatusCode.ticked
    allowAutoRedirect := a.allowAutoRedirect.ticked
    runtimeUser := a.runtimeUser.map RuntimeUser.seen
    extra := [] }

namespace Rules

theorem overridesAccountKeys_seen (a : Activity) :
    overridesAccountKeys a.seen = overridesAccountKeys a := by
  unfold overridesAccountKeys Activity.seen
  cases a.runtimeUser <;> rfl

theorem activity_seen (a : Activity) : activity a.seen = activity a := by
  have keys : accountKeys a.seen = accountKeys a := by
    unfold accountKeys
    rw [overridesAccountKeys_seen]
    rfl
  rw [activity, keys]
  rfl

end Rules

namespace Walk

theorem enter_seen (w : Walk) (a : Activity) : w.enter a.seen = w.enter a := by
  unfold enter
  rw [Rules.activity_seen]
  rfl

mutual

/-- A walk enters the activities in the order of `preorder`. -/
theorem visit_eq_foldl (w : Walk) : ∀ node : Action, w.visit node = node.preorder.foldl enter w
  | ⟨activity, blocks, actions⟩ => by
    rw [visit, visitAll_eq_foldl _ blocks, visitAll_eq_foldl _ actions, Action.preorder,
      List.foldl_append, List.foldl_cons]

theorem visitAll_eq_foldl (w : Walk) :
    ∀ forest : List Action, w.visitAll forest = (Action.preorderAll forest).foldl enter w
  | [] => rfl
  | node :: rest => by
    rw [visitAll, visit_eq_foldl w node, visitAll_eq_foldl _ rest, Action.preorderAll,
      List.foldl_append]

end

end Walk

/-! ### Variables -/

def Variable.seen (v : Variable) : Variable := { v with isRequired := v.isRequired.ticked }

namespace Rules

theorem declaration_seen (config : Config) (v : Option Variable) :
    declaration config (v.map Variable.seen) = declaration config v := by
  cases v <;> rfl

end Rules

/-! ### Documents -/

/-- All that rules see of a workflow. -/
structure Sight where
  properties : Field WorkflowProperties
  declarations : Field (List (Option Variable))
  activities : List Activity

def WorkflowBody.seen (body : WorkflowBody) : Sight where
  properties := body.properties
  declarations := body.declarations.map (List.map (Option.map Variable.seen))
  activities := (Action.preorderAll (body.actions.present?.getD [])).map Activity.seen

namespace Document

/-- What rules see of the workflow in a document. -/
def sight? (d : Document) : Option Sight := d.workflow.present?.map WorkflowBody.seen

variable (d : Document)

theorem activities_seen :
    d.activities.map Activity.seen = (d.sight?.map Sight.activities).getD [] := by
  unfold activities forest sight?
  cases d.workflow.present? <;> rfl

theorem walk_eq_foldl :
    d.walk = ((d.sight?.map Sight.activities).getD []).foldl Walk.enter Walk.start := by
  rw [← activities_seen, List.foldl_map]
  simp only [Walk.enter_seen]
  exact Walk.visitAll_eq_foldl _ _

theorem forest_isEmpty_eq : d.forest.isEmpty = ((d.sight?.map Sight.activities).getD []).isEmpty := by
  rw [← activities_seen, Bool.eq_iff_iff, List.isEmpty_iff, List.isEmpty_iff, List.map_eq_nil_iff]
  exact (Action.preorderAll_eq_nil_iff d.forest).symm

theorem declarations_eq (config : Config) : Rules.declarations config d =
    (match (d.sight?.map Sight.declarations).bind Field.present? with
      | some vs => vs.flatMap (Rules.declaration config)
      | none => [Finding.info "VAR005" "Variables" "No variables defined"]) ++
    [Rules.globalVariables (d.sight?.map Sight.declarations)] := by
  unfold Rules.declarations sight?
  cases d.workflow.present? with
  | none => rfl
  | some body =>
    simp only [Option.map_some, WorkflowBody.seen, Option.bind_some, Field.present?_map,
      Rules.globalVariables, Option.any_some, Field.isNull_map]
    cases body.declarations.present? with
    | none => rfl
    | some vs => simp only [Option.map_some, List.flatMap_map, Rules.declaration_seen]

/-- Documents that differ in their workflows only, and in these in nothing that rules see, get the
same report. -/
theorem report_eq_of_seen {d d' : Document} (sight : d.sight? = d'.sight?)
    (rest : { d' with workflow := d.workflow } = d) (config : Config) :
    d.report config = d'.report config := by
  have mode : d.mode? = d'.mode? := by
    have same := congrArg (Option.map Sight.properties) sight
    rw [sight?, sight?, Option.map_map, Option.map_map] at same
    exact mode?_congr same
  have walk : d.walk = d'.walk := by
    rw [walk_eq_foldl, sight, ← walk_eq_foldl]
  have references : d.atomicReferences = d'.atomicReferences := by
    rw [← rest]
    rfl
  have found (mode : Mode) (b : Bucket) :
      d.bucketFindings config mode b = d'.bucketFindings config mode b :=
    match b with
    | .properties => by
      rw [← rest]
      rfl
    | .variables => by
      simp only [bucketFindings, declarations_eq, sight]
    | .triggers => by
      rw [← rest]
      rfl
    | .targets => by
      rw [← rest]
      rfl
    | .activities => by
      simp only [bucketFindings, Rules.activities, walk, forest_isEmpty_eq, sight]
    | .atomics => by simp only [bucketFindings, Rules.atomics, walk, references]
    | .statistics => by simp only [bucketFindings, Rules.statistics, walk]
  simp only [report, mode, findings_eq_of_bucketFindings (found _)]

end Document

end WorkflowLint
