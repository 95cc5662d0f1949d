import Mathlib.Logic.Basic
import WorkflowLint.Proofs.Json.Members
import WorkflowLint.Proofs.Report.Frame

/-!
# What a document is read for

`Part.members` says which of its members an object is read for, and what for. `Slot.seen` is all that
a reader gets to know of the value in such a slot: nothing if the value does not fit
(`seen_of_misfit`). What an object says is then settled by what is seen of its members
(`Part.read_congr`), up to the root and its report.

Three places are no slots, since their readers tell missing, `null` and invalid apart: the user of an
activity, the `targets` of the root, and the `variables` where they are no list.
-/

set_option autoImplicit false

namespace WorkflowLint

/-! ### Parts and slots -/

/-- The kinds of objects that a document is made of. -/
inductive Part where
  | document
  | workflow
  | action
  | actionProperties
  | trigger
  | group
  | target
  | declaration
  | variableProperties

/-- What a place in a document is read for, and with it the shape that a value should have there. -/
inductive Slot where
  | text
  /-- A list with any items. -/
  | list
  | object (part : Part)
  /-- A list whose items count if they are objects. -/
  | objects (part : Part)
  /-- A list all of whose items count, or something else that is told from a missing one. -/
  | declarations
  /-- An object whose members are groups. -/
  | groups

/-- The members that an object is read for. -/
def Part.members : Part → List (String × Slot)
  | .document =>
    [("workflow", .object .workflow), ("categories", .list), ("target_groups", .groups),
      ("triggers", .objects .trigger), ("atomic_workflows", .list)]
  | .workflow => [("variables", .declarations), ("actions", .objects .action)]
  | .action =>
    [("type", .text), ("base_type", .text), ("properties", .object .actionProperties),
      ("blocks", .objects .action), ("actions", .objects .action)]
  | .actionProperties => [("display_name", .text), ("workflow_id", .text)]
  | .trigger => [("name", .text), ("type", .text)]
  | .group => [("name", .text), ("targets", .objects .target)]
  | .target => [("data_target_type", .text), ("selected_target_ids", .list)]
  | .declaration => [("properties", .object .variableProperties)]
  | .variableProperties =>
    [("name", .text), ("scope", .text), ("description", .text), ("type", .text)]

/-- The value has the shape that the slot asks for. -/
def Slot.fits : Slot → Json → Bool
  | .text, v => v.string?.isSome
  | .list, v => v.items?.isSome
  | .object _, v => v.isObject
  | .objects _, v => v.items?.isSome
  | .declarations, _ => true
  | .groups, v => v.isObject

/-! ### What is seen -/

/-- What an object of this kind is read for. -/
def Part.Data : Part → Type
  | .document => Config → Except Failure Report
  | .workflow => Field WorkflowProperties × Field (List (Option Variable)) × Option (List Action)
  | .action => Action
  | .actionProperties => Activity
  | .trigger => Trigger
  | .group => TargetGroup
  | .target => GroupTarget
  | .declaration => Option Variable
  | .variableProperties => Variable

/-- What the object with these members says. -/
def Part.read : (part : Part) → Members Json → part.Data
  | .document, members => (Document.ofMembers members).report
  | .workflow, members =>
    (Members.field members "properties" WorkflowProperties.ofJson?,
      Members.field members "variables" fun v => v.items?.map fun items =>
        items.map Variable.ofJson?,
      (Members.field members "actions" (Json.listOf? Action.ofJson?)).present?)
  | .action, members =>
    ⟨Activity.ofMembers members, Action.ofMembers "blocks" members,
      Action.ofMembers "actions" members⟩
  | .actionProperties, properties => Activity.ofMembers [("properties", .obj properties)]
  | .trigger, members => ⟨Members.string? members "name", Members.string? members "type"⟩
  | .group, members => TargetGroup.ofJson (.obj members)
  | .target, members =>
    ⟨Members.string? members "data_target_type", Members.items members "selected_target_ids"⟩
  | .declaration, members => Variable.ofJson? (.obj members)
  | .variableProperties, properties =>
    { name := Members.string? properties "name"
      scope := Members.string? properties "scope"
      description := Members.string? properties "description"
      type := Members.string? properties "type"
      isRequired := Members.property properties "is_required" }

def Slot.Data : Slot → Type
  | .text => Option String
  | .list => Option (List Json)
  | .object part => Option part.Data
  | .objects part => Option (List part.Data)
  | .declarations => Field (List (Option Variable))
  | .groups => Option (List (String × TargetGroup))

/-- What is seen of the value in the slot, if there is one. -/
def Slot.seen : (slot : Slot) → Option Json → slot.Data
  | .text, v => v.bind Json.string?
  | .list, v => v.bind Json.items?
  | .object part, v => v.bind fun w => w.members?.map part.read
  | .objects part, v => v.bind fun w => w.items?.map fun items =>
    items.filterMap fun x => x.members?.map part.read
  | .declarations, v => Field.ofJson? (fun w => w.items?.map fun items =>
    items.map Variable.ofJson?) v
  | .groups, v => v.bind fun w => w.members?.map fun groups =>
    groups.map fun g => (g.1, TargetGroup.ofJson g.2)

/-- **A misfit is as good as nothing.** -/
theorem Slot.seen_of_misfit (slot : Slot) {v : Json} (h : slot.fits v = false) :
    slot.seen (some v) = slot.seen none := by
  cases slot with
  | text => exact Option.not_isSome_iff_eq_none.1 (Bool.eq_false_iff.1 h)
  | list => exact Option.not_isSome_iff_eq_none.1 (Bool.eq_false_iff.1 h)
  | object part =>
    have none : v.members? = none := Option.not_isSome_iff_eq_none.1 (Bool.eq_false_iff.1 h)
    exact congrArg (Option.map part.read) none
  | objects part =>
    have none : v.items? = none := Option.not_isSome_iff_eq_none.1 (Bool.eq_false_iff.1 h)
    exact congrArg (Option.map fun items => items.filterMap fun x => x.members?.map part.read) none
  | declarations => cases h
  | groups =>
    have none : v.members? = none := Option.not_isSome_iff_eq_none.1 (Bool.eq_false_iff.1 h)
    exact congrArg (Option.map fun groups => groups.map fun g => (g.1, TargetGroup.ofJson g.2)) none

/-- The objects are seen alike: under the keys of the part, and in all other members. -/
structure Part.Alike (part : Part) (ms ns : Members Json) : Prop where
  seen : ∀ (key : String) {slot : Slot}, part.members.lookup key = some slot →
    slot.seen (ms.lookup key) = slot.seen (ns.lookup key)
  others : ms.filter (fun m => (part.members.lookup m.1).isNone) =
    ns.filter fun m => (part.members.lookup m.1).isNone

namespace Part

variable {part : Part} {ms ns : Members Json}

theorem alike_erase {key : String} {slot : Slot} {v : Json}
    (expected : part.members.lookup key = some slot) (found : ms.lookup key = some v)
    (misfit : slot.fits v = false) : part.Alike ms (Members.erase key ms) where
  seen := by
    intro k s expected'
    rw [Members.lookup_erase]
    by_cases h : k = key
    · subst h
      cases expected.symm.trans expected'
      rw [if_pos rfl, found, Slot.seen_of_misfit slot misfit]
    · rw [if_neg h]
  others := (Members.filter_erase (fun k => (part.members.lookup k).isNone) (by rw [expected]; rfl)
    ms).symm

theorem alike_put {key : String} {slot : Slot} {v w : Json}
    (expected : part.members.lookup key = some slot) (found : ms.lookup key = some v)
    (same : slot.seen (some v) = slot.seen (some w)) : part.Alike ms (Members.put key w ms) where
  seen := by
    intro k s expected'
    rw [Members.lookup_put]
    by_cases h : k = key
    · subst h
      cases expected.symm.trans expected'
      rw [if_pos rfl, found, same]
    · rw [if_neg h]
  others := (Members.filter_put (fun k => (part.members.lookup k).isNone) (by rw [expected]; rfl)
    w ms).symm

namespace Alike

variable (h : part.Alike ms ns) (key : String)

include h

theorem lookup (other : part.members.lookup key = none) : ms.lookup key = ns.lookup key := by
  have found := congrArg (List.lookup key) h.others
  rw [Members.lookup_filter fun k => (part.members.lookup k).isNone,
    Members.lookup_filter fun k => (part.members.lookup k).isNone, other] at found
  exact found

theorem field {α : Type} (read? : Json → Option α) (other : part.members.lookup key = none) :
    Members.field ms key read? = Members.field ns key read? := by
  rw [Members.field, h.lookup key other, Members.field]

theorem property (other : part.members.lookup key = none) :
    Members.property ms key = Members.property ns key := by
  rw [Members.property, h.lookup key other, Members.property]

theorem string? (expected : part.members.lookup key = some .text) :
    Members.string? ms key = Members.string? ns key :=
  h.seen key expected

theorem items (expected : part.members.lookup key = some .list) :
    Members.items ms key = Members.items ns key :=
  congrArg (fun items => Option.getD items []) (h.seen key expected)

/-- Where a list of objects is expected, its items count that are read as objects. -/
theorem filterMap_items {inner : Part} (expected : part.members.lookup key = some (.objects inner)) :
    (Members.items ms key).filterMap (fun x => x.members?.map inner.read) =
      (Members.items ns key).filterMap fun x => x.members?.map inner.read := by
  have counted (v : Option Json) :
      ((v.bind Json.items?).getD []).filterMap (fun x => x.members?.map inner.read) =
        Option.getD ((Slot.objects inner).seen v) [] := by
    cases v with
    | none => rfl
    | some x => cases hx : x.items? <;> simp [Slot.seen, hx]
  rw [Members.items, Members.items, counted, counted, h.seen key expected]

end Alike

end Part

/-! ### Objects that are seen alike say the same -/

theorem Action.ofJson?_eq (v : Json) : ofJson? v = v.members?.map (Part.read .action) := by
  cases v <;> rfl

theorem Action.ofMembers_eq (key : String) (members : Members Json) :
    ofMembers key members =
      (Members.items members key).filterMap fun v => v.members?.map (Part.read .action) := by
  rw [ofMembers_eq_filterMap]
  exact congrArg (fun read => (Members.items members key).filterMap read) (funext ofJson?_eq)

/-- An activity takes its type from the node and all else from the properties of the node. -/
theorem Activity.ofMembers_eq (members : Members Json) :
    ofMembers members =
      { Option.getD ((Slot.object .actionProperties).seen (members.lookup "properties"))
          (ofMembers []) with
        type := Members.string? members "type"
        baseType := Members.string? members "base_type" } := by
  rw [ofMembers, Members.object]
  cases members.lookup "properties" with
  | none => rfl
  | some v => cases v <;> rfl

namespace Part

variable {ms ns : Members Json}

/-- The slots of the properties are among the keys with a meaning, so none of them is an extra. -/
theorem filter_knownKeys (properties : Members Json) :
    (properties.filter fun m => (actionProperties.members.lookup m.1).isNone).filter
        (fun m => !Activity.knownKeys.contains m.1) =
      properties.filter fun m => !Activity.knownKeys.contains m.1 := by
  rw [List.filter_filter]
  refine List.filter_congr fun m _ => ?_
  by_cases name : m.1 = "display_name"
  · simp [name, Activity.knownKeys]
  · by_cases id : m.1 = "workflow_id"
    · simp [id, Activity.knownKeys]
    · simp [members, lookup_cons_ite, name, id]

theorem read_actionProperties (h : actionProperties.Alike ms ns) :
    actionProperties.read ms = actionProperties.read ns := by
  have extra : ms.filter (fun m => !Activity.knownKeys.contains m.1) =
      ns.filter fun m => !Activity.knownKeys.contains m.1 := by
    rw [← filter_knownKeys ms, h.others, filter_knownKeys]
  have object (properties : Members Json) :
      Members.object [("properties", .obj properties)] "properties" = properties := rfl
  show Activity.ofMembers [("properties", .obj ms)] = Activity.ofMembers [("properties", .obj ns)]
  rw [Activity.ofMembers, Activity.ofMembers, object, object, h.string? "display_name" rfl,
    h.string? "workflow_id" rfl, h.property "continue_on_failure" rfl,
    h.property "continue_on_error_status_code" rfl, h.property "allow_auto_redirect" rfl,
    h.field "runtime_user" RuntimeUser.ofJson? rfl, extra]
  rfl

theorem read_action (h : action.Alike ms ns) : action.read ms = action.read ns := by
  have activity : Activity.ofMembers ms = Activity.ofMembers ns := by
    rw [Activity.ofMembers_eq, h.string? "type" rfl, h.string? "base_type" rfl,
      h.seen "properties" rfl, ← Activity.ofMembers_eq]
  have below (key : String) (expected : action.members.lookup key = some (.objects .action)) :
      Action.ofMembers key ms = Action.ofMembers key ns := by
    rw [Action.ofMembers_eq, h.filterMap_items key expected, ← Action.ofMembers_eq]
  show (⟨_, _, _⟩ : Action) = ⟨_, _, _⟩
  rw [activity, below "blocks" rfl, below "actions" rfl]

theorem read_trigger (h : trigger.Alike ms ns) : trigger.read ms = trigger.read ns :=
  congrArg₂ Trigger.mk (h.string? "name" rfl) (h.string? "type" rfl)

theorem read_group (h : group.Alike ms ns) : group.read ms = group.read ns :=
  congrArg₂ TargetGroup.mk (h.string? "name" rfl) (h.filterMap_items "targets" rfl)

theorem read_target (h : target.Alike ms ns) : target.read ms = target.read ns :=
  congrArg₂ GroupTarget.mk (h.string? "data_target_type" rfl) (h.items "selected_target_ids" rfl)

theorem read_declaration (h : declaration.Alike ms ns) :
    declaration.read ms = declaration.read ns := by
  have seen (members : Members Json) : Variable.ofJson? (.obj members) =
      (Slot.object .variableProperties).seen (members.lookup "properties") := by
    show (members.lookup "properties").bind _ = _
    cases members.lookup "properties" with
    | none => rfl
    | some v => cases v <;> rfl
  show Variable.ofJson? (.obj ms) = Variable.ofJson? (.obj ns)
  rw [seen, h.seen "properties" rfl, ← seen]

theorem read_variableProperties (h : variableProperties.Alike ms ns) :
    variableProperties.read ms = variableProperties.read ns := by
  show (⟨_, _, _, _, _⟩ : Variable) = ⟨_, _, _, _, _⟩
  rw [h.string? "name" rfl, h.string? "scope" rfl, h.string? "description" rfl,
    h.string? "type" rfl, h.property "is_required" rfl]

theorem read_workflow (h : workflow.Alike ms ns) : workflow.read ms = workflow.read ns := by
  have actions (members : Members Json) :
      (Members.field members "actions" (Json.listOf? Action.ofJson?)).present? =
        (Slot.objects .action).seen (members.lookup "actions") := by
    rw [Members.field, Field.present?_ofJson? rfl, funext Action.ofJson?_eq]
    rfl
  show (_, _, _) = (_, _, _)
  rw [h.field "properties" WorkflowProperties.ofJson? rfl, actions, actions]
  exact congrArg₂ (fun declared forest => (_, declared, forest)) (h.seen "variables" rfl)
    (h.seen "actions" rfl)

/-- What a workflow says, as the object that it was read from says it. -/
def ofBody (body : WorkflowBody) : workflow.Data :=
  (body.properties, body.declarations, body.actions.present?)

theorem map_ofBody (members : Members Json) :
    (Document.ofMembers members).workflow.present?.map ofBody =
      (Slot.object .workflow).seen (members.lookup "workflow") := by
  have present : (Document.ofMembers members).workflow.present? =
      (members.lookup "workflow").bind WorkflowBody.ofJson? := Field.present?_ofJson? rfl _
  rw [present]
  cases members.lookup "workflow" with
  | none => rfl
  | some v => cases v <;> rfl

theorem map_ofBody_congr (h : document.Alike ms ns) {β : Type} (f : workflow.Data → β) :
    (Document.ofMembers ms).workflow.present?.map (fun body => f (ofBody body)) =
      (Document.ofMembers ns).workflow.present?.map fun body => f (ofBody body) := by
  have same := congrArg (Option.map f)
    ((map_ofBody ms).trans ((h.seen "workflow" rfl).trans (map_ofBody ns).symm))
  rwa [Option.map_map, Option.map_map] at same

theorem present?_congr {α : Type} {read? : Json → Option α} (null : read? .null = none) (key : String)
    (same : (ms.lookup key).bind read? = (ns.lookup key).bind read?) :
    (Members.field ms key read?).present? = (Members.field ns key read?).present? := by
  rw [Members.field, Field.present?_ofJson? null, same, ← Field.present?_ofJson? null, Members.field]

/-- The rules on a document see of it what is seen of its members. -/
theorem Alike.agreeOn (h : document.Alike ms ns) (b : Bucket) :
    (Document.ofMembers ms).AgreeOn (Document.ofMembers ns) b :=
  have forest : (Document.ofMembers ms).forest = (Document.ofMembers ns).forest := by
    have same := congrArg (fun actions => (Option.bind actions id).getD [])
      (map_ofBody_congr h fun body => body.2.2)
    simp only [Option.bind_map] at same
    exact same
  match b with
  | .properties => by
    have same : ((ms.lookup "categories").bind Json.items?).map (List.map Category.ofJson) =
        ((ns.lookup "categories").bind Json.items?).map (List.map Category.ofJson) :=
      congrArg (Option.map _) (h.seen "categories" rfl)
    rw [Option.map_bind, Option.map_bind] at same
    exact present?_congr rfl "categories" same
  | .variables => map_ofBody_congr h fun body => body.2.1
  | .triggers => present?_congr rfl "triggers" (h.seen "triggers" rfl)
  | .targets =>
    ⟨congrArg Field.isSet (h.field "targets" some rfl),
      present?_congr rfl "target_groups" (h.seen "target_groups" rfl)⟩
  | .activities => forest
  | .atomics => ⟨forest, present?_congr rfl "atomic_workflows" (h.seen "atomic_workflows" rfl)⟩
  | .statistics => forest

theorem read_document (h : document.Alike ms ns) : document.read ms = document.read ns := by
  funext config
  exact Document.report_congr (Document.mode?_congr (map_ofBody_congr h Prod.fst)) h.agreeOn config

/-- **Objects say the same if what is seen of their members is the same.** -/
theorem read_congr {part : Part} (h : part.Alike ms ns) : part.read ms = part.read ns := by
  cases part with
  | document => exact read_document h
  | workflow => exact read_workflow h
  | action => exact read_action h
  | actionProperties => exact read_actionProperties h
  | trigger => exact read_trigger h
  | group => exact read_group h
  | target => exact read_target h
  | declaration => exact read_declaration h
  | variableProperties => exact read_variableProperties h

end Part

theorem Variable.ofJson?_eq (v : Json) :
    ofJson? v = Option.join ((Slot.object .declaration).seen (some v)) := by
  cases v <;> rfl

theorem TargetGroup.ofJson_eq (v : Json) :
    ofJson v = Option.getD ((Slot.object .group).seen (some v)) (ofJson (.obj [])) := by
  cases v <;> rfl

/-- The result of an analysis is what is seen of the value that the text holds. -/
theorem analyze_eq_seen {text : String} {v : Json} (read : Json.ofText text = .ok v)
    (config : Config) :
    analyze text config =
      (Option.map (fun result : Config → Except Failure Report => result config)
        ((Slot.object .document).seen (some v.settle))).getD
        (.error ⟨.parse, "Failed to parse workflow JSON: document root must be an object"⟩) := by
  have seen : (Slot.object .document).seen (some v.settle) =
      v.settle.members?.map (Part.read .document) := rfl
  rw [seen]
  simp only [analyze, Document.ofText, read, Document.ofJson?]
  cases v.settle.members? <;> rfl

end WorkflowLint
