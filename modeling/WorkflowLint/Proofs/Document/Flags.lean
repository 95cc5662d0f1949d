import WorkflowLint.Proofs.Document.Edits
import WorkflowLint.Proofs.Json.Revising
import WorkflowLint.Proofs.Json.RoundTrip
import WorkflowLint.Proofs.Rules.Flags

/-!
# Plain flags

`Json.plainFlags` brings every flag of a document, at whatever depth, into plain form: it is `true` if
it was truthy, or else it is taken out. What is read from a part in plain form is seen by rules as what
is read from the part itself, from single activities (`Activity.seen_plainMembers`) up through the
action tree (`Action.seen?_plainAction`) to the workflow, so the analysis is the same
(`analyze_plainFlags`).
-/

set_option autoImplicit false

namespace WorkflowLint

namespace Json

/-- A declaration of a variable in plain form. -/
def plainDeclaration : Json → Json :=
  onMembers (Members.adjust "properties" (onMembers (Members.tick "is_required")))

/-- The properties of an action in plain form. -/
def plainProperties (members : Members Json) : Members Json :=
  Members.adjust "runtime_user" (onMembers (Members.tick "target_default"))
    (Members.tick "continue_on_failure" (Members.tick "continue_on_error_status_code"
      (Members.tick "allow_auto_redirect" members)))

mutual

/-- An action in plain form, with all actions below it. -/
def plainAction : Json → Json
  | obj members => obj (plainMembers members)
  | v => v

def plainMembers : Members Json → Members Json
  | [] => []
  | (key, v) :: rest =>
    (key, if key = "properties" then onMembers plainProperties v
      else if key = "blocks" ∨ key = "actions" then plainActions v
      else v) :: plainMembers rest

def plainActions : Json → Json
  | arr items => arr (plainItems items)
  | v => v

def plainItems : List Json → List Json
  | [] => []
  | v :: rest => plainAction v :: plainItems rest

end

/-- A workflow in plain form. -/
def plainWorkflow (members : Members Json) : Members Json :=
  Members.adjust "variables" (onItems plainDeclaration)
    (Members.adjust "actions" plainActions members)

/-- The document with all its flags in plain form. -/
def plainFlags : Json → Json :=
  onMembers (Members.adjust "workflow" (onMembers plainWorkflow))

theorem plainItems_eq_map (items : List Json) : plainItems items = items.map plainAction := by
  induction items with
  | nil => rfl
  | cons v rest ih => rw [plainItems, ih, List.map_cons]

theorem plainActions_eq : plainActions = onItems plainAction := by
  funext v
  cases v with
  | arr items => rw [plainActions, plainItems_eq_map, onItems]
  | _ => rfl

/-- A member of an action in plain form. -/
def plainMember (key : String) (v : Json) : Json :=
  if key = "properties" then onMembers plainProperties v
  else if key = "blocks" ∨ key = "actions" then onItems plainAction v
  else v

theorem plainMembers_eq (members : Members Json) :
    plainMembers members = Members.revise plainMember members := by
  induction members with
  | nil => rfl
  | cons m rest ih =>
    obtain ⟨key, v⟩ := m
    rw [plainMembers, ih, plainActions_eq]
    rfl

end Json

/-! ### Reading -/

namespace Members

theorem ticked_property_tick (key : String) (members : Members Json) (k : String) :
    (property (tick key members) k).ticked = (property members k).ticked := by
  rw [Json.ticked, property, Json.isTruthy_canonical, isTruthy_lookup_tick, ← Json.isTruthy_canonical,
    ← property, Json.ticked]

end Members

theorem RuntimeUser.seen_plain (v : Option Json) :
    (Field.ofJson? RuntimeUser.ofJson?
        (v.map (Json.onMembers (Members.tick "target_default")))).map RuntimeUser.seen =
      (Field.ofJson? RuntimeUser.ofJson? v).map RuntimeUser.seen := by
  cases v with
  | none => rfl
  | some v =>
    cases v with
    | obj members =>
      have flag := Members.ticked_property_tick "target_default" members "target_default"
      exact congrArg (fun flag => Field.present (RuntimeUser.mk flag)) flag
    | _ => rfl

namespace Json

theorem lookup_plainProperties (members : Members Json) {key : String}
    (other : key ∉ ["continue_on_failure", "continue_on_error_status_code", "allow_auto_redirect",
      "runtime_user"]) : (plainProperties members).lookup key = members.lookup key := by
  simp only [List.mem_cons, List.not_mem_nil, or_false, not_or] at other
  obtain ⟨failure, status, redirect, user⟩ := other
  rw [plainProperties, Members.lookup_adjust, if_neg user, Members.lookup_tick _ _ failure,
    Members.lookup_tick _ _ status, Members.lookup_tick _ _ redirect]

theorem ticked_property_plainProperties (members : Members Json) {key : String}
    (other : key ≠ "runtime_user") :
    (Members.property (plainProperties members) key).ticked =
      (Members.property members key).ticked := by
  rw [Members.property, plainProperties, Members.lookup_adjust, if_neg other, ← Members.property,
    Members.ticked_property_tick, Members.ticked_property_tick, Members.ticked_property_tick]

theorem string?_plainProperties (members : Members Json) {key : String}
    (other : key ∉ ["continue_on_failure", "continue_on_error_status_code", "allow_auto_redirect",
      "runtime_user"]) :
    Members.string? (plainProperties members) key = Members.string? members key := by
  rw [Members.string?, lookup_plainProperties members other, Members.string?]

theorem user_plainProperties (members : Members Json) :
    (Members.field (plainProperties members) "runtime_user" RuntimeUser.ofJson?).map
        RuntimeUser.seen =
      (Members.field members "runtime_user" RuntimeUser.ofJson?).map RuntimeUser.seen := by
  rw [Members.field, plainProperties, Members.lookup_adjust, if_pos rfl, RuntimeUser.seen_plain,
    Members.lookup_tick _ _ (by decide), Members.lookup_tick _ _ (by decide),
    Members.lookup_tick _ _ (by decide), Members.field]

end Json

/-- The activity of an action in plain form is seen as that of the action. -/
theorem Activity.seen_plainMembers (members : Members Json) :
    (ofMembers (Json.plainMembers members)).seen = (ofMembers members).seen := by
  have own (key : String) (other : key ∉ ["properties", "blocks", "actions"]) :
      Members.string? (Json.plainMembers members) key = Members.string? members key := by
    simp only [List.mem_cons, List.not_mem_nil, or_false, not_or] at other
    obtain ⟨properties, blocks, actions⟩ := other
    have same : Json.plainMember key = id := by
      funext v
      simp [Json.plainMember, properties, blocks, actions]
    rw [Members.string?, Json.plainMembers_eq, Members.lookup_revise, same, Option.map_id, id,
      Members.string?]
  have inner : Members.object (Json.plainMembers members) "properties" =
      Json.plainProperties (Members.object members "properties") := by
    rw [Json.plainMembers_eq]
    exact Members.object_onMembers rfl (Members.lookup_revise _ _ _)
  simp only [seen, ofMembers, own "type" (by decide), own "base_type" (by decide), inner,
    Json.string?_plainProperties _ (show "display_name" ∉ _ by decide),
    Json.string?_plainProperties _ (show "workflow_id" ∉ _ by decide),
    Json.ticked_property_plainProperties _ (show "continue_on_failure" ≠ _ by decide),
    Json.ticked_property_plainProperties _ (show "continue_on_error_status_code" ≠ _ by decide),
    Json.ticked_property_plainProperties _ (show "allow_auto_redirect" ≠ _ by decide),
    Json.user_plainProperties]

theorem Json.items_plainMembers (members : Members Json) {key : String}
    (list : key ∈ ["blocks", "actions"]) : Members.items (plainMembers members) key =
      (Members.items members key).map plainAction := by
  rw [plainMembers_eq]
  rcases List.mem_pair.1 list with rfl | rfl <;>
    exact Members.items_onItems (Members.lookup_revise _ _ _)

namespace Action

/-- The activities of the action at a value and of all actions below it, as rules see them. -/
def seen? (v : Json) : Option (List Activity) :=
  (ofJson? v).map fun a => a.preorder.map Activity.seen

/-- The activities of a forest as rules see them, by the values that it was read from. -/
theorem map_seen_preorderAll (items : List Json) :
    (preorderAll (items.filterMap ofJson?)).map Activity.seen = (items.filterMap seen?).flatten := by
  rw [preorderAll_eq_flatMap, List.map_flatMap, List.flatMap_def, List.map_filterMap]
  rfl

theorem seen?_obj (members : Members Json) : seen? (.obj members) =
    some ((Activity.ofMembers members).seen ::
      ((Members.items members "blocks").filterMap seen?).flatten ++
        ((Members.items members "actions").filterMap seen?).flatten) := by
  rw [seen?, ofJson?, Option.map_some, preorder, ofMembers_eq_filterMap, ofMembers_eq_filterMap,
    List.map_append, List.map_cons, map_seen_preorderAll, map_seen_preorderAll]

theorem filterMap_seen?_map {items : List Json}
    (h : ∀ v ∈ items, seen? v.plainAction = seen? v) :
    (items.map Json.plainAction).filterMap seen? = items.filterMap seen? := by
  rw [List.filterMap_map]
  exact List.filterMap_congr h

/-- Rules see no difference between an action and its plain form. -/
theorem seen?_plainAction (v : Json) : seen? v.plainAction = seen? v := by
  -- by induction on the value, together with the same for the items of a list
  suffices both : seen? v.plainAction = seen? v ∧
      ∀ x ∈ v.items?.getD [], seen? x.plainAction = seen? x from both.1
  induction v using Json.induction with
  | obj members inside =>
    refine ⟨?_, fun x mem => absurd mem List.not_mem_nil⟩
    have children (key : String) (list : key ∈ ["blocks", "actions"]) :
        (Members.items (Json.plainMembers members) key).filterMap seen? =
          (Members.items members key).filterMap seen? := by
      rw [Json.items_plainMembers members list]
      refine filterMap_seen?_map fun x mem => ?_
      unfold Members.items at mem
      cases found : members.lookup key with
      | none =>
        rw [found] at mem
        cases mem
      | some w =>
        obtain ⟨front, back, split, -⟩ := List.lookup_eq_some_iff.1 found
        have member : (key, w) ∈ members := split ▸ List.mem_append_right _ List.mem_cons_self
        rw [found] at mem
        exact (inside _ member).2 x mem
    rw [Json.plainAction, seen?_obj, seen?_obj, Activity.seen_plainMembers,
      children "blocks" (by decide), children "actions" (by decide)]
  | arr items inside => exact ⟨rfl, fun x mem => (inside x mem).1⟩
  | _ => exact ⟨rfl, fun x mem => absurd mem List.not_mem_nil⟩

end Action

namespace Variable

/-- The variable with these properties. -/
def ofProperties (properties : Members Json) : Variable where
  name := Members.string? properties "name"
  scope := Members.string? properties "scope"
  description := Members.string? properties "description"
  type := Members.string? properties "type"
  isRequired := Members.property properties "is_required"

theorem ofJson?_obj (members : Members Json) : ofJson? (.obj members) =
    ((members.lookup "properties").bind Json.members?).map ofProperties := by
  show (members.lookup "properties").bind _ = _
  cases members.lookup "properties" with
  | none => rfl
  | some v => cases v <;> rfl

theorem seen_ofProperties_tick (properties : Members Json) :
    (ofProperties (Members.tick "is_required" properties)).seen = (ofProperties properties).seen := by
  have text (key : String) (other : key ≠ "is_required") :
      Members.string? (Members.tick "is_required" properties) key =
        Members.string? properties key := by
    rw [Members.string?, Members.lookup_tick _ _ other, Members.string?]
  simp only [seen, ofProperties, text "name" (by decide), text "scope" (by decide),
    text "description" (by decide), text "type" (by decide), Members.ticked_property_tick]

/-- Rules see no difference between a declaration and its plain form. -/
theorem map_seen_plainDeclaration (v : Json) :
    (ofJson? v.plainDeclaration).map seen = (ofJson? v).map seen := by
  cases v with
  | obj members =>
    rw [Json.plainDeclaration, Json.onMembers, ofJson?_obj, ofJson?_obj, Members.lookup_adjust,
      if_pos rfl]
    cases members.lookup "properties" with
    | none => rfl
    | some p =>
      cases p with
      | obj properties => exact congrArg some (seen_ofProperties_tick properties)
      | _ => rfl
  | _ => rfl

/-- Nor between a list of declarations and its plain form. -/
theorem map_seen_plainDeclarations (v : Option Json) :
    (Field.ofJson? (fun w => w.items?.map fun items => items.map ofJson?)
        (v.map (Json.onItems Json.plainDeclaration))).map (List.map (Option.map seen)) =
      (Field.ofJson? (fun w => w.items?.map fun items => items.map ofJson?) v).map
        (List.map (Option.map seen)) := by
  cases v with
  | none => rfl
  | some v =>
    cases v with
    | arr items =>
      refine congrArg Field.present ?_
      simp only [List.map_map]
      exact List.map_congr_left fun x _ => map_seen_plainDeclaration x
    | _ => rfl

end Variable

namespace WorkflowBody

theorem activities_plainActions (v : Option Json) :
    (Action.preorderAll (((v.map Json.plainActions).bind (Json.listOf? Action.ofJson?)).getD [])).map
        Activity.seen =
      (Action.preorderAll ((v.bind (Json.listOf? Action.ofJson?)).getD [])).map Activity.seen := by
  rw [Json.plainActions_eq]
  cases v with
  | none => rfl
  | some v =>
    cases v with
    | arr items =>
      show (Action.preorderAll ((items.map Json.plainAction).filterMap Action.ofJson?)).map _ =
        (Action.preorderAll (items.filterMap Action.ofJson?)).map _
      rw [Action.map_seen_preorderAll, Action.map_seen_preorderAll,
        Action.filterMap_seen?_map fun x _ => Action.seen?_plainAction x]
    | _ => rfl

/-- Rules see no difference between a workflow and its plain form. -/
theorem map_seen_plainWorkflow (v : Json) :
    (ofJson? (v.onMembers Json.plainWorkflow)).map seen = (ofJson? v).map seen := by
  cases v with
  | obj members =>
    have properties : (Json.plainWorkflow members).lookup "properties" =
        members.lookup "properties" := by
      rw [Json.plainWorkflow, Members.lookup_adjust, if_neg (by decide), Members.lookup_adjust,
        if_neg (by decide)]
    have declared : (Json.plainWorkflow members).lookup "variables" =
        (members.lookup "variables").map (Json.onItems Json.plainDeclaration) := by
      rw [Json.plainWorkflow, Members.lookup_adjust, if_pos rfl, Members.lookup_adjust,
        if_neg (by decide)]
    have actions : (Json.plainWorkflow members).lookup "actions" =
        (members.lookup "actions").map Json.plainActions := by
      rw [Json.plainWorkflow, Members.lookup_adjust, if_neg (by decide), Members.lookup_adjust,
        if_pos rfl]
    simp only [Json.onMembers, ofJson?, Json.members?, Option.map_some, seen, Members.field,
      properties, declared, actions, Variable.map_seen_plainDeclarations,
      Field.present?_ofJson? (show Json.listOf? Action.ofJson? .null = none from rfl),
      activities_plainActions]
  | _ => rfl

end WorkflowBody

namespace Document

/-- A document and its plain form get the same report. -/
theorem report_plainFlags (members : Members Json) (config : Config) :
    (ofMembers (Members.adjust "workflow" (Json.onMembers Json.plainWorkflow) members)).report config =
      (ofMembers members).report config := by
  have others {key : String} (other : key ≠ "workflow") :
      (Members.adjust "workflow" (Json.onMembers Json.plainWorkflow) members).lookup key =
        members.lookup key := by
    rw [Members.lookup_adjust, if_neg other]
  refine report_eq_of_seen ?_ ?_ config
  · have null : WorkflowBody.ofJson? .null = none := rfl
    simp only [sight?, ofMembers, Members.field, Field.present?_ofJson? null,
      Members.lookup_adjust, if_pos]
    cases members.lookup "workflow" with
    | none => rfl
    | some v => exact WorkflowBody.map_seen_plainWorkflow v
  · simp only [ofMembers, Members.field, others (show "categories" ≠ _ by decide),
      others (show "targets" ≠ _ by decide), others (show "target_groups" ≠ _ by decide),
      others (show "triggers" ≠ _ by decide), others (show "atomic_workflows" ≠ _ by decide)]

end Document

/-! ### Analyses -/

namespace Json

theorem settles_plainProperties : Settles (onMembers plainProperties) :=
  ((Settles.tick "target_default").adjust "runtime_user").comp <|
    (Settles.tick "continue_on_failure").comp <|
      (Settles.tick "continue_on_error_status_code").comp <| Settles.tick "allow_auto_redirect"

theorem settles_plainAction : Settles plainAction := by
  -- by induction on the value, together with the same for it as a list of actions
  suffices both : ∀ v : Json, v.Settled → v.plainAction.Settled ∧ (v.onItems plainAction).Settled
    from fun v settled => (both v settled).1
  intro v settled
  induction v using Json.induction with
  | obj members inside =>
    refine ⟨?_, settled⟩
    rw [plainAction, plainMembers_eq]
    refine settled.revise fun m mem own => ?_
    unfold plainMember
    split
    · exact settles_plainProperties _ own
    · split
      · exact (inside m mem own).2
      · exact own
  | arr items inside =>
    refine ⟨settled, ?_⟩
    rw [onItems, settled_arr_iff]
    intro w mem
    obtain ⟨x, here, rfl⟩ := List.mem_map.1 mem
    exact (inside x here (settled_arr_iff.1 settled x here)).1
  | _ => exact ⟨settled, settled⟩

theorem settles_plainFlags : Settles plainFlags := by
  have declarations : Settles (onItems plainDeclaration) :=
    ((Settles.tick "is_required").adjust "properties").onItems
  have actions : Settles plainActions := by
    rw [plainActions_eq]
    exact settles_plainAction.onItems
  exact ((declarations.adjust "variables").comp (actions.adjust "actions")).adjust "workflow"

theorem isObject_plainFlags (v : Json) : v.settle.plainFlags.isObject = v.isObject := by
  cases v <;> rfl

end Json

/-- An analysis depends on the plain form of the document. -/
theorem analyze_eq_plainFlags {text : String} {v : Json} (read : Json.ofText text = .ok v)
    (config : Config) :
    analyze text config =
      if v.settle.plainFlags.isObject then (Document.ofMembers v.settle.plainFlags.fields).report config
      else .error ⟨.parse, "Failed to parse workflow JSON: document root must be an object"⟩ := by
  rw [analyze_of_read read, Json.isObject_plainFlags]
  split
  · next object =>
    have settled : v.settle.plainFlags.Settled := Json.settles_plainFlags _ v.settled_settle
    have fields : v.settle.plainFlags.fields =
        Members.adjust "workflow" (Json.onMembers Json.plainWorkflow) v.fields := by
      rw [Json.fields, settled, Json.settle_of_isObject object]
      rfl
    rw [fields, Document.report_plainFlags]
  · rfl

/-- **Flags matter only by their truthiness.** A text whose flags are in plain form has the outcome of
the text they were brought into that form from, and so have any two texts with the same plain form,
whichever of their flags differ. What counts as not truthy is `null`, `false`, the empty string and
zero. -/
theorem analyze_plainFlags {text : String} {v : Json} (read : Json.ofText text = .ok v) :
    (∀ text', Json.ofText text' = .ok v.settle.plainFlags →
      ∀ config, analyze text' config = analyze text config) ∧
    (∀ text' w, Json.ofText text' = .ok w → w.settle.plainFlags = v.settle.plainFlags →
      ∀ config, analyze text' config = analyze text config) ∧
    ∀ flag : Json, flag.isTruthy = false ↔ flag = .null ∨ flag = .bool false ∨ flag = .str "" ∨
      ∃ n : Number, n.isZero ∧ flag = .num n := by
  refine ⟨fun text' read' config => ?_, fun text' w read' same config => ?_,
    fun flag => Json.isTruthy_eq_false_iff⟩
  · rw [analyze_of_read read', analyze_eq_plainFlags read]
  · rw [analyze_eq_plainFlags read', same, analyze_eq_plainFlags read]

/-- A workflow with one variable, and with one action inside another. -/
def flagging (declared action : Members Json) : Json :=
  atomicWith [("variables", .arr [.obj [("properties", .obj declared)]]),
    ("actions", .arr [.obj [("blocks", .arr [.obj [("properties", .obj action)]])]])]

/-- Flags that are no booleans. -/
def looseFlags : Json :=
  flagging [("name", .str "Order"), ("is_required", .str "false")]
    [("continue_on_failure", .obj []), ("allow_auto_redirect", .num (.int 0)),
      ("runtime_user", .obj [("target_default", .str "")])]

theorem plainFlags_looseFlags : looseFlags.settle.plainFlags =
    flagging [("name", .str "Order"), ("is_required", .bool true)]
      [("continue_on_failure", .bool true), ("runtime_user", .obj [])] := rfl

theorem analyze_plainFlags_looseFlags :
    Json.ofText looseFlags.compact = .ok looseFlags ∧
      Json.ofText looseFlags.settle.plainFlags.compact = .ok looseFlags.settle.plainFlags ∧
      analyze looseFlags.settle.plainFlags.compact .builtIn = analyze looseFlags.compact .builtIn := by
  have before : Json.ofText looseFlags.compact = .ok looseFlags := by
    apply Json.ofText_compact_of_exact
    simp [looseFlags, flagging, atomicWith, Json.nestingLimit]
  have after : Json.ofText looseFlags.settle.plainFlags.compact =
      .ok looseFlags.settle.plainFlags := by
    rw [plainFlags_looseFlags]
    apply Json.ofText_compact_of_exact
    simp [flagging, atomicWith, Json.nestingLimit]
  exact ⟨before, after, (analyze_plainFlags before).1 _ after .builtIn⟩

end WorkflowLint
