import WorkflowLint.Proofs.Document.Levels

/-!
# The action nodes of a document

`Json.nodes` lists the objects that stand where actions may stand, in the value as the text gives
it: a node, then what is under its `blocks`, then what is under its `actions`, then its siblings.
`activities_fields` says that the activities of a document are these objects one by one, so what the
rules say of an activity can be said of a node.
-/

set_option autoImplicit false

namespace WorkflowLint

namespace Json

theorem one_le_sizeOf (v : Json) : 1 ≤ sizeOf v := by
  cases v <;> simp

/-- The list under a key of a value is no larger than the value. -/
theorem sizeOf_itemsAt_le (v : Json) (key : String) : sizeOf (v.itemsAt key) ≤ sizeOf v := by
  have empty : sizeOf ([] : List Json) ≤ sizeOf v := one_le_sizeOf v
  cases h : v.get? key with
  | none => simpa [itemsAt, h] using empty
  | some w =>
    cases w with
    | arr items =>
      obtain ⟨members, rfl, mem⟩ := mem_of_get?_eq_some h
      have := List.sizeOf_lt_of_mem mem
      simp only [itemsAt, h, Option.bind_some, items?, Option.getD_some]
      simp only [Prod.mk.sizeOf_spec, arr.sizeOf_spec, obj.sizeOf_spec] at this ⊢
      omega
    | _ => simpa [itemsAt, h, items?] using empty

/-- The nodes among the items of a list and below them, each before those below it. -/
def nodes : List Json → List Json
  | [] => []
  | v :: rest =>
    if v.isObject then
      v :: nodes (v.itemsAt "blocks") ++ nodes (v.itemsAt "actions") ++ nodes rest
    else nodes rest
termination_by items => sizeOf items
decreasing_by
  all_goals simp only [List.cons.sizeOf_spec]
  · have := sizeOf_itemsAt_le v "blocks"
    omega
  · have := sizeOf_itemsAt_le v "actions"
    omega
  · omega
  · omega

/-- The nodes of a document. -/
def actionNodes (v : Json) : List Json :=
  nodes (((v.at? ["workflow", "actions"]).bind items?).getD [])

end Json

/-- The activity of a node. -/
def Activity.ofNode (v : Json) : Activity := Activity.ofMembers v.fields

/-- The activity of a node is a matter of three of its members. -/
theorem Activity.ofNode_eq_of_get? {v w : Json}
    (same : ∀ key ∈ ["type", "base_type", "properties"], v.get? key = w.get? key) :
    ofNode v = ofNode w := by
  have type := same "type" (by decide)
  have base := same "base_type" (by decide)
  have properties := same "properties" (by decide)
  simp only [ofNode, ofMembers, Members.string?_fields, Members.object_fields, type, base,
    properties]

namespace Action

theorem ofJson?_settle (v : Json) :
    ofJson? v.settle =
      if v.isObject then
        some ⟨Activity.ofNode v, ofItems ((v.itemsAt "blocks").map Json.settle),
          ofItems ((v.itemsAt "actions").map Json.settle)⟩
      else none := by
  split
  · next h =>
    rw [Json.settle_of_isObject h, ofJson?, ofMembers_eq_filterMap, ofMembers_eq_filterMap,
      Members.items_fields, Members.items_fields, ← ofItems_eq_filterMap, ← ofItems_eq_filterMap]
    rfl
  · next h =>
    cases v with
    | obj members => exact absurd rfl h
    | _ => rfl

/-- The forest read from a list has the nodes of the list. -/
theorem preorderAll_ofItems (items : List Json) :
    preorderAll (ofItems (items.map Json.settle)) = (Json.nodes items).map Activity.ofNode := by
  induction items using Json.nodes.induct with
  | case1 => simp [Json.nodes, ofItems, preorderAll]
  | case2 v rest h blocks actions siblings =>
    rw [List.map_cons, ofItems, ofJson?_settle, if_pos h, Json.nodes, if_pos h]
    simp [preorderAll, preorder, blocks, actions, siblings]
  | case3 v rest h siblings =>
    rw [List.map_cons, ofItems, ofJson?_settle, if_neg h, Json.nodes, if_neg h]
    exact siblings

theorem preorderAll_eq_nil_iff (forest : List Action) : preorderAll forest = [] ↔ forest = [] := by
  cases forest with
  | nil => simp [preorderAll]
  | cons a rest => simp [preorderAll, preorder_eq]

end Action

namespace Document

theorem forest_fields (v : Json) :
    (Document.ofMembers v.fields).forest =
      Action.ofItems ((((v.at? ["workflow", "actions"]).bind Json.items?).getD []).map Json.settle) := by
  have workflow : (Document.ofMembers v.fields).workflow.present? = _ :=
    Members.present?_field_object v "workflow" _
  rw [forest, workflow, Action.ofItems_eq_filterMap]
  cases hw : v.get? "workflow" with
  | none => simp [Json.at?, hw]
  | some w =>
    have actions : (Members.field w.fields "actions" (Json.listOf? Action.ofJson?)).present? = _ :=
      Members.present?_field w "actions" rfl
    have path : v.at? ["workflow", "actions"] = w.get? "actions" := by
      simp [Json.at?, hw]
    rw [path, Option.filter_some]
    split
    · simp only [Option.map_some, Option.bind_some, actions, Json.listOf?, Json.items?_settle]
      cases h : w.get? "actions" with
      | none => rfl
      | some x => cases hx : x.items? <;> simp [hx]
    · next notObject =>
      rw [Json.get?_of_not_isObject notObject]
      rfl

/-- The activities of a document are its nodes. -/
theorem activities_fields (v : Json) :
    (Document.ofMembers v.fields).activities = v.actionNodes.map Activity.ofNode := by
  rw [activities, forest_fields, Action.preorderAll_ofItems]
  rfl

theorem forest_fields_isEmpty (v : Json) :
    (Document.ofMembers v.fields).forest.isEmpty = v.actionNodes.isEmpty := by
  rw [Bool.eq_iff_iff, List.isEmpty_iff, List.isEmpty_iff, ← Action.preorderAll_eq_nil_iff,
    ← List.map_eq_nil_iff (f := Activity.ofNode), ← activities_fields]
  rfl

end Document

end WorkflowLint
