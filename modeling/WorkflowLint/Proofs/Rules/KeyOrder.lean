import WorkflowLint.Proofs.Document.Rearrangement
import WorkflowLint.Proofs.Json.KeyOrder

/-!
# Rules and the order of keys

The readers of a document look keys up, so what they say of a settled value does not depend on the
order of its keys; nor does what the rules find on an action node, a variable, a trigger or a group
of targets. Three places show the order: the names of categories and the references to atomic
workflows, which may be texts of whole values, and the groups of targets, which are gone through as
they stand.
-/

set_option autoImplicit false

namespace WorkflowLint

open Json

/-! ### Readings -/

namespace Json.OrderBlind

theorem isNull : OrderBlind Json.isNull := of_shape (fun _ _ => rfl) fun _ _ => rfl

/-- A settled value is read as it is. -/
theorem settle {β : Type} {see : Json → β} (h : OrderBlind see) :
    OrderBlind fun v => see v.settle := by
  intro v w alike
  have left : v.settle = v := alike.left
  have right : w.settle = w := alike.right
  dsimp only
  rw [left, right, h alike]

end Json.OrderBlind

namespace Members.Alike

variable {members members' : Members Json} (h : members.Alike members') (key : String)

include h

theorem string? : Members.string? members key = Members.string? members' key :=
  OrderBlind.string?.bind (h.lookup key)

/-- A property is read in its canonical form, or as `null`. -/
theorem property : Members.property members key = Members.property members' key := by
  have read (ms : Members Json) :
      Members.property ms key = ((ms.lookup key).map Json.canonical).getD Json.null.canonical := by
    rw [Members.property]
    cases ms.lookup key <;> rfl
  rw [read, read, OrderBlind.canonical.map (h.lookup key)]

theorem items : List.Forall₂ Json.Alike (Members.items members key) (Members.items members' key) :=
  Json.Alike.items_getD (h.lookup key)

end Members.Alike

theorem Variable.orderBlind : OrderBlind Variable.ofJson? := by
  intro v w h
  unfold ofJson?
  refine rel_cases h.members? rfl fun ms ns members => ?_
  simp only [Option.bind_eq_bind, Option.bind_some]
  refine rel_cases (members.lookup "properties") rfl fun p q inside => ?_
  simp only [Option.bind_some]
  refine rel_cases inside.members? rfl fun ps qs properties => ?_
  simp only [Option.bind_some, properties.string?, properties.property]

theorem Trigger.orderBlind : OrderBlind Trigger.ofJson? := by
  intro v w h
  unfold ofJson?
  refine rel_cases h.members? rfl fun ms ns members => ?_
  simp only [Option.map_some, members.string?]

/-! ### Action nodes -/

namespace Node

section

variable {v w : Json} (h : v.Alike w)

include h

theorem property?_alike (key : String) :
    Option.Rel Json.Alike (property? v key) (property? w key) :=
  h.at? ["properties", key]

theorem flag_congr (key : String) : flag v key = flag w key :=
  OrderBlind.isTruthy.any (property?_alike h key)

theorem baseType?_congr : baseType? v = baseType? w := OrderBlind.string?.bind (h.get? "base_type")

theorem workflowId?_congr : workflowId? v = workflowId? w :=
  OrderBlind.string?.bind (property?_alike h "workflow_id")

theorem title_congr : title v = title w := by
  have read (u : Json) : title u = ((property? u "display_name").bind string?).elim
      "Unnamed Action" fun name => if name = "" then "Unnamed Action" else name := by
    unfold title
    cases property? u "display_name" with
    | none => rfl
    | some x => cases x <;> rfl
  rw [read, read, OrderBlind.string?.bind (property?_alike h "display_name")]

theorem overridesKeys_congr : overridesKeys v = overridesKeys w := by
  have asks : OrderBlind fun user => !(user.get? "target_default").any Json.isTruthy :=
    fun _ _ same => congrArg not (OrderBlind.isTruthy.any (same.get? "target_default"))
  exact asks.any (property?_alike h "runtime_user")

end

theorem type?_orderBlind : OrderBlind type? := fun _ _ h => OrderBlind.string?.bind (h.get? "type")

theorem calls_orderBlind (id : String) : OrderBlind (calls id) := by
  intro v w h
  rw [calls, baseType?_congr h, workflowId?_congr h, calls]

theorem findings_orderBlind : OrderBlind findings := by
  intro v w h
  unfold findings
  rw [title_congr h, type?_orderBlind h, overridesKeys_congr h, flag_congr h, flag_congr h,
    flag_congr h]

end Node

namespace Json

/-- The nodes of forests that are alike are alike one by one. -/
theorem nodes_alike {xs ys : List Json} (h : List.Forall₂ Json.Alike xs ys) :
    List.Forall₂ Json.Alike (nodes xs) (nodes ys) := by
  induction xs using nodes.induct generalizing ys with
  | case1 =>
    cases h
    rw [nodes]
    exact .nil
  | case2 v rest object blocks actions siblings =>
    obtain _ | ⟨same, others⟩ := h
    rw [nodes, nodes, ← OrderBlind.isObject same, if_pos object, if_pos object]
    exact .cons same (List.rel_append (List.rel_append (blocks (same.itemsAt "blocks"))
      (actions (same.itemsAt "actions"))) (siblings others))
  | case3 v rest other siblings =>
    obtain _ | ⟨same, others⟩ := h
    rw [nodes, nodes, ← OrderBlind.isObject same, if_neg other, if_neg other]
    exact siblings others

theorem Alike.actionNodes {v w : Json} (h : v.Alike w) :
    List.Forall₂ Json.Alike v.actionNodes w.actionNodes :=
  nodes_alike (Alike.items_getD (h.at? ["workflow", "actions"]))

end Json

theorem find?_alike {p : Json → Bool} (h : OrderBlind p) {xs ys : List Json}
    (alike : List.Forall₂ Json.Alike xs ys) : Option.Rel Json.Alike (xs.find? p) (ys.find? p) := by
  induction alike with
  | nil => exact .none
  | cons first _ ih =>
    rw [List.find?_cons, List.find?_cons, h first]
    split
    · exact .some first
    · exact ih

/-- A reference has the same caller, whichever way the objects of the nodes are ordered. -/
theorem Node.resolution_congr {nodes nodes' : List Json} (h : List.Forall₂ Json.Alike nodes nodes')
    (reference : String) : resolution nodes reference = resolution nodes' reference := by
  unfold resolution
  refine rel_cases (find?_alike (calls_orderBlind reference) h) rfl fun n m same => ?_
  simp only [title_congr same, flag_congr same]

/-! ### Groups of targets -/

/-- Of the targets picked by hand only counts whether there are any. -/
theorem Rules.groupTarget_congr {config : Config} {id : String} {group : TargetGroup}
    {target target' : GroupTarget} (type : target.type = target'.type)
    (selected : target.selectedIds.isEmpty = target'.selectedIds.isEmpty) :
    groupTarget config id group target = groupTarget config id group target' := by
  unfold groupTarget selectedTargets targetType
  rw [type, selected]

theorem GroupTarget.findings_orderBlind (config : Config) (id : String) (group : TargetGroup) :
    OrderBlind fun w => (GroupTarget.ofJson? w).toList.flatMap
      (Rules.groupTarget config id group) := by
  intro v w h
  unfold ofJson?
  dsimp only
  refine rel_cases h.members? rfl fun ms ns members => ?_
  have selected : (Members.items ms "selected_target_ids").isEmpty =
      (Members.items ns "selected_target_ids").isEmpty := by
    rw [Bool.eq_iff_iff, List.isEmpty_iff_length_eq_zero, List.isEmpty_iff_length_eq_zero,
      (members.items "selected_target_ids").length_eq]
  simp only [Option.map_some, Option.toList_some, List.flatMap_singleton]
  exact Rules.groupTarget_congr (members.string? "data_target_type") selected

/-- What is found on a target group is a matter of its identifier and of what is under its keys. -/
theorem TargetGroup.findings_orderBlind (config : Config) (id : String) :
    OrderBlind fun g => Rules.targetGroup config (id, TargetGroup.ofJson g) := by
  intro g h alike
  have members := alike.members_getD
  -- the rules see the name of a group, but not its other targets
  have read (ms : Members Json) : Rules.targetGroup config (id,
      ⟨Members.string? ms "name", (Members.items ms "targets").filterMap GroupTarget.ofJson?⟩) =
        ((Members.items ms "targets").map fun w => (GroupTarget.ofJson? w).toList.flatMap
          (Rules.groupTarget config id ⟨Members.string? ms "name", []⟩)).flatten := by
    rw [Rules.targetGroup, List.filterMap_eq_flatMap_toList, List.flatMap_assoc, ← List.flatMap_def]
    rfl
  unfold ofJson
  dsimp only
  rw [read, read, members.string?,
    (GroupTarget.findings_orderBlind config id _).list_map (members.items "targets")]

namespace Json

/-- The identifiers of the target groups, in the order of the document. -/
def groupIds (v : Json) : List String := v.groups.map Prod.fst

/-- What is found on the target group with this identifier. -/
def groupFindings (v : Json) (config : Config) (id : String) : List Finding :=
  match v.groups.lookup id with
  | some group => Rules.targetGroup config (id, TargetGroup.ofJson group)
  | none => []

theorem flatMap_groupFindings {v : Json} (h : Members.Distinct v.groups) (config : Config) :
    (v.groups.flatMap fun g => Rules.targetGroup config (g.1, TargetGroup.ofJson g.2)) =
      v.groupIds.flatMap (v.groupFindings config) := by
  rw [groupIds, List.flatMap_map]
  refine List.flatMap_congr fun g hg => ?_
  have found : v.groups.lookup g.1 = some g.2 := (Members.lookup_eq_some_iff h g.1 g.2).2 hg
  rw [groupFindings, found]

namespace Alike

variable {v w : Json} (h : v.Alike w)

include h

theorem groups : Members.Alike v.groups w.groups := by
  unfold Json.groups
  exact rel_cases (h.get? "target_groups") Members.alike_nil fun _ _ same => same.fields

theorem groupFindings_eq (config : Config) : v.groupFindings config = w.groupFindings config := by
  funext id
  unfold groupFindings
  exact rel_cases (h.groups.lookup id) rfl fun _ _ same =>
    TargetGroup.findings_orderBlind config id same

/-! ### Levels -/

theorem fills_eq : v.fills = w.fills := by
  funext gap
  have accepts : OrderBlind gap.accepts := by
    cases gap with
    | isAtomic => exact fun _ _ same => congrArg Option.isSome (OrderBlind.bool? same)
    | _ => exact OrderBlind.isObject
  exact accepts.any (h.at? gap.path)

theorem gap?_eq : v.gap? = w.gap? := by
  rw [gap?, h.fills_eq, gap?]

theorem mode?_eq : (Document.ofMembers v.fields).mode? = (Document.ofMembers w.fields).mode? := by
  have spec := Document.mode?_fields_spec v
  have spec' := Document.mode?_fields_spec w
  have gap := h.gap?_eq
  have stated := OrderBlind.bool?.bind (h.at? Gap.isAtomic.path)
  generalize (Document.ofMembers v.fields).mode? = mode at spec ⊢
  generalize (Document.ofMembers w.fields).mode? = mode' at spec' ⊢
  cases mode with
  | error missed =>
    cases mode' with
    | error missed' => rw [Option.some.inj (spec.symm.trans (gap.trans spec'))]
    | ok mode' => exact absurd (spec.symm.trans (gap.trans spec'.1)) (by simp)
  | ok mode =>
    obtain ⟨filled, flag, hflag, rfl⟩ := spec
    cases mode' with
    | error missed' => exact absurd (filled.symm.trans (gap.trans spec')) (by simp)
    | ok mode' =>
      obtain ⟨-, flag', hflag', rfl⟩ := spec'
      rw [hflag, hflag'] at stated
      rw [Option.some.inj stated]

end Alike
end Json

/-! ### Buckets -/

namespace Rules

theorem declarations_orderBlind (config : Config) :
    OrderBlind fun v => declarations config (Document.ofMembers v.fields) := by
  intro v w h
  have globals : v.hasGlobals = w.hasGlobals :=
    OrderBlind.isNull.any (h.at? ["workflow", "variables"])
  have list : OrderBlind fun x => x.items?.map (List.map fun y => Variable.ofJson? y.settle) :=
    OrderBlind.items fun _ _ => Variable.orderBlind.settle.list_map
  have declared : (v.variables?.map fun vs => vs.map fun x => Variable.ofJson? x.settle) =
      w.variables?.map fun vs => vs.map fun x => Variable.ofJson? x.settle := by
    rw [variables?, variables?, Option.map_bind, Option.map_bind]
    exact list.bind (h.at? ["workflow", "variables"])
  unfold declarations globalVariables
  dsimp only
  rw [Document.present?_declared_fields, Document.present?_declared_fields, declared,
    Document.isNull_declared_fields, Document.isNull_declared_fields, globals]

theorem triggers_orderBlind : OrderBlind fun v => triggers (Document.ofMembers v.fields) := by
  intro v w h
  have listed : (Document.ofMembers v.fields).triggers.present? =
      (Document.ofMembers w.fields).triggers.present? := by
    have read (u : Json) : (Document.ofMembers u.fields).triggers.present? = _ :=
      Members.present?_field u "triggers" rfl
    rw [read, read]
    exact Trigger.orderBlind.listOf?.settle.bind (h.get? "triggers")
  unfold triggers
  dsimp only
  rw [listed]

theorem activities_orderBlind (mode : Mode) :
    OrderBlind fun v => activities mode (Document.ofMembers v.fields) := by
  intro v w h
  have nodes := h.actionNodes
  dsimp only
  rw [activities_fields, activities_fields, activityFindings, activityFindings]
  generalize v.actionNodes = ns at nodes ⊢
  generalize w.actionNodes = ms at nodes ⊢
  have found : ns.flatMap Node.findings = ms.flatMap Node.findings := by
    rw [List.flatMap_def, List.flatMap_def, Node.findings_orderBlind.list_map nodes]
  cases nodes with
  | nil => rfl
  | cons first rest => rw [if_neg (List.cons_ne_nil _ _), if_neg (List.cons_ne_nil _ _), found]

theorem statistics_orderBlind : OrderBlind fun v => statistics (Document.ofMembers v.fields) := by
  intro v w h
  have count : v.actionNodes.length = w.actionNodes.length := h.actionNodes.length_eq
  have types : v.actionTypes = w.actionTypes := by
    rw [actionTypes, Node.type?_orderBlind.list_filterMap h.actionNodes, actionTypes]
  dsimp only
  rw [statistics_fields, statistics_fields, count, types]

/-- Categories may be shown with all that is in them. -/
theorem properties_congr {v w : Json} (mode : Mode)
    (listed : v.itemsAt "categories" = w.itemsAt "categories") :
    properties mode (Document.ofMembers v.fields) =
      properties mode (Document.ofMembers w.fields) := by
  have names (u : Json) : categoryNames (Document.ofMembers u.fields) =
      (u.itemsAt "categories").map fun c => (Category.ofJson c.settle).displayName := by
    have read : (Document.ofMembers u.fields).categories.present? = _ :=
      Members.present?_field u "categories" rfl
    rw [categoryNames, read, itemsAt]
    cases u.get? "categories" with
    | none => rfl
    | some x => cases hx : x.items? <;> simp [hx]
  rw [properties, properties, categories, categories, names, names, listed]

/-- So may references. -/
theorem atomics_congr {v w : Json} (h : v.Alike w)
    (listed : v.itemsAt "atomic_workflows" = w.itemsAt "atomic_workflows") :
    atomics (Document.ofMembers v.fields) = atomics (Document.ofMembers w.fields) := by
  have references : v.references = w.references := by rw [references, listed, references]
  have resolved := funext (Node.resolution_congr h.actionNodes)
  rw [atomics_fields, atomics_fields, references, resolved]

/-- The groups are gone through in the order of the document. -/
theorem targets_fields {v : Json} (h : Members.Distinct v.groups) (config : Config) :
    targets config (Document.ofMembers v.fields) =
      embeddedTargets (Document.ofMembers v.fields) ::
        v.groupIds.flatMap (v.groupFindings config) := by
  rw [targets, Document.targetGroups_fields, List.flatMap_map, flatMap_groupFindings h]

theorem embeddedTargets_orderBlind :
    OrderBlind fun v => embeddedTargets (Document.ofMembers v.fields) := by
  intro v w h
  have targets : v.hasTargets = w.hasTargets := by
    have set : OrderBlind fun x => !x.isNull :=
      fun _ _ same => congrArg not (OrderBlind.isNull same)
    exact set.any (h.get? "targets")
  unfold embeddedTargets
  dsimp only
  rw [Document.isSet_targets_fields, Document.isSet_targets_fields, targets]

end Rules

end WorkflowLint
