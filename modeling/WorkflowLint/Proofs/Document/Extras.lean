import WorkflowLint.Proofs.Document.Edits
import WorkflowLint.Proofs.Json.Ordered
import WorkflowLint.Proofs.Json.RoundTrip
import WorkflowLint.Proofs.Walk

/-!
# Properties without a meaning

An activity knows six of its properties and keeps all the others (`Activity.extra`). `Activity.Divides`
says that this splits an object in two: no member is lost, none is kept that is known, and values stay
what they are. No rule looks at what is kept, so a change of such a property, in whatever node of the
forest, is seen in that one entry of the document and never in a report (`extras_of_document`).
-/

set_option autoImplicit false

namespace WorkflowLint

/-- The second value is what is kept of the first: the same, with the keys of its objects in order. -/
structure Json.KeptAs (v w : Json) : Prop where
  same : v.Same w
  ordered : w.Ordered

/-- The keys of the properties that rules look at. -/
def Activity.judged : List String :=
  ["display_name", "continue_on_failure", "continue_on_error_status_code", "allow_auto_redirect",
    "runtime_user", "workflow_id"]

theorem Activity.knownKeys_eq_judged : knownKeys = judged := rfl

/-- The activity has all members of its properties `p`, each in one place. -/
structure Activity.Divides (a : Activity) (p : Json) : Prop where
  ordered : Members.Ordered a.extra
  keys : ∀ key, key ∈ a.extra.map Prod.fst ↔ (p.get? key).isSome ∧ key ∉ judged
  values : ∀ m ∈ a.extra, ∃ v, p.get? m.1 = some v ∧ v.KeptAs m.2
  continueOnFailure : ((p.get? "continue_on_failure").getD .null).KeptAs a.continueOnFailure
  continueOnErrorStatusCode :
    ((p.get? "continue_on_error_status_code").getD .null).KeptAs a.continueOnErrorStatusCode
  allowAutoRedirect : ((p.get? "allow_auto_redirect").getD .null).KeptAs a.allowAutoRedirect

/-! ### Differences in one place -/

/-- The values differ in the member of the key among the properties of one node: of the node itself,
or of one below it. -/
inductive Json.NodeEdit (key : String) : Json → Json → Prop
  | here {v w p q : Json} (outside : v.EqualBut "properties" w)
    (before : v.get? "properties" = some p) (after : w.get? "properties" = some q)
    (inside : p.EqualBut key q) : NodeEdit key v w
  | child {v w x y : Json} (list : String) (front back : List Json)
    (children : list ∈ ["blocks", "actions"]) (outside : v.EqualBut list w)
    (before : v.get? list = some (.arr (front ++ x :: back)))
    (after : w.get? list = some (.arr (front ++ y :: back)))
    (inside : NodeEdit key x y) : NodeEdit key v w

/-- The documents differ in the member of the key among the properties of one node. -/
structure Json.PropertyEdit (key : String) (v w : Json) : Prop where
  outside : v.EqualBut "workflow" w
  inside : ∃ a b, v.get? "workflow" = some a ∧ w.get? "workflow" = some b ∧ a.EqualBut "actions" b ∧
    ∃ front x y back, a.get? "actions" = some (.arr (front ++ x :: back)) ∧
      b.get? "actions" = some (.arr (front ++ y :: back)) ∧ NodeEdit key x y

/-- The activities differ at most in what they keep under the key. -/
structure Activity.DiffersAt (key : String) (a b : Activity) : Prop where
  known : { a with extra := b.extra } = b
  others : Members.erase key a.extra = Members.erase key b.extra

/-- One activity of the node or below it differs at most in what it keeps under the key. -/
inductive Action.DiffersAt (key : String) : Action → Action → Prop
  | here {a b : Activity} (blocks actions : List Action) (same : a.DiffersAt key b) :
    DiffersAt key ⟨a, blocks, actions⟩ ⟨b, blocks, actions⟩
  | blocks (a : Activity) {x y : Action} (front back actions : List Action)
    (inside : DiffersAt key x y) :
    DiffersAt key ⟨a, front ++ x :: back, actions⟩ ⟨a, front ++ y :: back, actions⟩
  | actions (a : Activity) {x y : Action} (blocks front back : List Action)
    (inside : DiffersAt key x y) :
    DiffersAt key ⟨a, blocks, front ++ x :: back⟩ ⟨a, blocks, front ++ y :: back⟩

/-- One activity of the document differs at most in what it keeps under the key. -/
inductive Document.DiffersAt (key : String) (d : Document) : Document → Prop
  | intro {body : WorkflowBody} {x y : Action} {front back : List Action}
    (workflow : d.workflow = .present body) (actions : body.actions = .present (front ++ x :: back))
    (inside : x.DiffersAt key y) :
    DiffersAt key d
      { d with workflow := .present { body with actions := .present (front ++ y :: back) } }

/-! ### What an activity keeps -/

theorem Json.keptAs_canonical (v : Json) : v.KeptAs v.canonical :=
  ⟨v.same_canonical, v.ordered_canonical⟩

theorem Members.property_fields (v : Json) (key : String) :
    property v.fields key = ((v.get? key).getD .null).canonical := by
  rw [property, Json.lookup_fields]
  cases v.get? key with
  | none => rfl
  | some w => exact w.canonical_settle

namespace Activity

theorem ordered_extra (v : Json) : Members.Ordered (ofNode v).extra := Members.ordered_sort _

section

variable {v p : Json} (properties : v.get? "properties" = some p)

include properties

theorem object_properties : Members.object v.fields "properties" = p.fields := by
  rw [Members.object_fields, properties]
  rfl

theorem lookup_extra (key : String) : (ofNode v).extra.lookup key =
    if key ∈ judged then none else (p.get? key).map Json.canonical := by
  show (Members.sort _).lookup key = _
  rw [← knownKeys_eq_judged]
  -- no key is repeated in the fields of `p`, so first and last members of a key are the same
  rw [object_properties properties, Members.lookup_sort, ← List.map_reverse, lookup_map_snd,
    ← List.filter_reverse, Members.lookup_filter fun k => !knownKeys.contains k,
    Members.lookup_reverse p.distinct_fields, Json.lookup_fields]
  by_cases known : key ∈ knownKeys
  · simp [known]
  · have settled : Json.canonical ∘ Json.settle = Json.canonical := funext Json.canonical_settle
    simp [known, settled]

theorem mem_extra_iff (key : String) (w : Json) : (key, w) ∈ (ofNode v).extra ↔
    key ∉ judged ∧ ∃ x, p.get? key = some x ∧ x.canonical = w := by
  rw [← Members.lookup_eq_some_iff (ordered_extra v).distinct, lookup_extra properties]
  by_cases known : key ∈ judged <;> simp [known]

/-- An activity divides the properties of its node. -/
theorem divides_ofNode : (ofNode v).Divides p := by
  have flag (key : String) : ((p.get? key).getD .null).KeptAs
      (Members.property (Members.object v.fields "properties") key) := by
    rw [object_properties properties, Members.property_fields]
    exact Json.keptAs_canonical _
  refine ⟨ordered_extra v, fun key => ?_, fun m hm => ?_, flag _, flag _, flag _⟩
  · rw [Option.isSome_iff_exists]
    constructor
    · intro mem
      obtain ⟨m, hm, rfl⟩ := List.mem_map.1 mem
      obtain ⟨unknown, x, found, -⟩ := (mem_extra_iff properties _ _).1 hm
      exact ⟨⟨x, found⟩, unknown⟩
    · rintro ⟨⟨x, found⟩, unknown⟩
      exact List.mem_map.2 ⟨_, (mem_extra_iff properties _ _).2 ⟨unknown, x, found, rfl⟩, rfl⟩
  · obtain ⟨-, x, found, kept⟩ := (mem_extra_iff properties _ _).1 hm
    exact ⟨x, found, kept ▸ x.keptAs_canonical⟩

end

/-- A member without a meaning is seen in its own entry only. -/
theorem differsAt_ofNode {key : String} (unknown : key ∉ judged) {v w p q : Json}
    (outside : v.EqualBut "properties" w) (before : v.get? "properties" = some p)
    (after : w.get? "properties" = some q) (inside : p.EqualBut key q) :
    (ofNode v).DiffersAt key (ofNode w) where
  known := by
    have same (k : String) (known : k ∈ judged) : p.get? k = q.get? k :=
      inside k fun e => unknown (e ▸ known)
    have user : Members.field p.fields "runtime_user" RuntimeUser.ofJson? =
        Members.field q.fields "runtime_user" RuntimeUser.ofJson? :=
      Members.field_congr (same _ (by decide)) _
    simp only [ofNode, ofMembers, object_properties before, object_properties after,
      Members.string?_fields, Members.property_fields, user,
      outside "type" (by decide), outside "base_type" (by decide),
      same "display_name" (by decide), same "continue_on_failure" (by decide),
      same "continue_on_error_status_code" (by decide), same "allow_auto_redirect" (by decide),
      same "workflow_id" (by decide)]
  others := by
    refine ((ordered_extra v).filter _).ext ((ordered_extra w).filter _) fun k => ?_
    show (Members.erase key _).lookup k = (Members.erase key _).lookup k
    rw [Members.lookup_erase, Members.lookup_erase]
    split
    · rfl
    · next other => rw [lookup_extra before, lookup_extra after, inside k other]

end Activity

/-! ### The forest -/

namespace Action

/-- The action of an item stands among those of the items around it. -/
theorem ofItems_split {x : Json} {a : Action} (h : ofJson? x.settle = some a)
    (front back : List Json) :
    ofItems ((front ++ x :: back).map Json.settle) =
      ofItems (front.map Json.settle) ++ a :: ofItems (back.map Json.settle) := by
  simp [ofItems_eq_filterMap, h]

end Action

/-- A node with a changed property is read as an action that differs in one place. -/
theorem Json.NodeEdit.differsAt {key : String} (unknown : key ∉ Activity.judged) {v w : Json}
    (h : NodeEdit key v w) : ∃ a b, Action.ofJson? v.settle = some a ∧
      Action.ofJson? w.settle = some b ∧ a.DiffersAt key b := by
  induction h with
  | here outside before after inside =>
    rw [Action.ofJson?_settle, Action.ofJson?_settle, if_pos (isObject_of_get? before),
      if_pos (isObject_of_get? after), outside.itemsAt "blocks" (by decide),
      outside.itemsAt "actions" (by decide)]
    exact ⟨_, _, rfl, rfl, .here _ _ (Activity.differsAt_ofNode unknown outside before after inside)⟩
  | @child v w x y list front back children outside before after _ ih =>
    obtain ⟨a, b, readA, readB, differ⟩ := ih
    -- the nodes differ in a list of children, and their own activities do not look at it
    have apart : ∀ k ∈ ["type", "base_type", "properties"], k ∉ ["blocks", "actions"] := by decide
    have kept (k : String) (own : k ∈ ["type", "base_type", "properties"]) : v.get? k = w.get? k :=
      outside k fun e => apart k own (e ▸ children)
    rw [Action.ofJson?_settle, Action.ofJson?_settle, if_pos (isObject_of_get? before),
      if_pos (isObject_of_get? after), Activity.ofNode_eq_of_get? kept]
    rcases List.mem_pair.1 children with rfl | rfl
    · rw [itemsAt_of_get? before, itemsAt_of_get? after, Action.ofItems_split readA,
        Action.ofItems_split readB, outside.itemsAt "actions" (by decide)]
      exact ⟨_, _, rfl, rfl, .blocks _ _ _ _ differ⟩
    · rw [itemsAt_of_get? before, itemsAt_of_get? after, Action.ofItems_split readA,
        Action.ofItems_split readB, outside.itemsAt "blocks" (by decide)]
      exact ⟨_, _, rfl, rfl, .actions _ _ _ _ differ⟩

/-! ### The walk -/

theorem Activity.DiffersAt.enter_eq {key : String} {a b : Activity} (h : a.DiffersAt key b)
    (w : Walk) : w.enter a = w.enter b := by
  rw [← h.known]
  rfl

/-- A walk does not see what activities keep. -/
theorem Action.DiffersAt.visit_eq {key : String} {a b : Action} (h : a.DiffersAt key b) (w : Walk) :
    w.visit a = w.visit b := by
  induction h generalizing w with
  | here blocks actions same => rw [Walk.visit, Walk.visit, same.enter_eq]
  | blocks a front back actions _ ih =>
    simp only [Walk.visit, Walk.visitAll_append, Walk.visitAll, ih]
  | actions a blocks front back _ ih =>
    simp only [Walk.visit, Walk.visitAll_append, Walk.visitAll, ih]

/-! ### Documents -/

namespace Document

section

variable {v a : Json} (workflow : v.get? "workflow" = some a) {items : List Json}
  (list : a.get? "actions" = some (.arr items))

include list

theorem actions_fields : Members.field a.fields "actions" (Json.listOf? Action.ofJson?) =
    .present (Action.ofItems (items.map Json.settle)) := by
  refine Members.field_eq_present _ _ list rfl ?_
  rw [Json.settle_arr, Action.ofItems_eq_filterMap]
  rfl

include workflow

theorem workflow_fields : (ofMembers v.fields).workflow = .present {
    properties := Members.field a.fields "properties" WorkflowProperties.ofJson?
    declarations := Members.field a.fields "variables" fun v =>
      v.items?.map fun items => items.map Variable.ofJson?
    actions := .present (Action.ofItems (items.map Json.settle)) } := by
  refine Members.field_eq_present _ _ workflow rfl ?_
  rw [Json.settle_of_isObject (Json.isObject_of_get? list), ← actions_fields list]
  rfl

end

/-- Values with a changed property are read as documents that differ in one entry. -/
theorem differsAt_ofMembers {key : String} (unknown : key ∉ Activity.judged) {v w : Json}
    (edit : v.PropertyEdit key w) : (ofMembers v.fields).DiffersAt key (ofMembers w.fields) := by
  obtain ⟨outside, a, b, before, after, inside, front, x, y, back, list, list', node⟩ := edit
  obtain ⟨n, m, readN, readM, differ⟩ := node.differsAt unknown
  have workflow := workflow_fields before list
  have workflow' := workflow_fields after list'
  rw [Action.ofItems_split readN] at workflow
  rw [Action.ofItems_split readM, ← Members.field_congr (inside "properties" (by decide)),
    ← Members.field_congr (inside "variables" (by decide))] at workflow'
  have rest : ofMembers w.fields =
      { ofMembers v.fields with workflow := (ofMembers w.fields).workflow } := by
    simp only [ofMembers, Members.field_congr (outside "categories" (by decide)),
      Members.field_congr (outside "targets" (by decide)),
      Members.field_congr (outside "target_groups" (by decide)),
      Members.field_congr (outside "triggers" (by decide)),
      Members.field_congr (outside "atomic_workflows" (by decide))]
  rw [rest, workflow']
  exact .intro workflow rfl differ

namespace DiffersAt

variable {key : String} {d d' : Document} (h : d.DiffersAt key d')

include h

theorem exists_forest : ∃ front x y back, d.forest = front ++ x :: back ∧
    d'.forest = front ++ y :: back ∧ Action.DiffersAt key x y := by
  obtain @⟨body, x, y, front, back, workflow, actions, inside⟩ := h
  refine ⟨front, x, y, back, ?_, rfl, inside⟩
  rw [Document.forest, workflow, Field.present?, Option.bind_some, actions]
  rfl

theorem walk_eq : d.walk = d'.walk := by
  obtain ⟨front, x, y, back, forest, forest', inside⟩ := h.exists_forest
  simp only [walk, forest, forest', Walk.visitAll_append, Walk.visitAll, inside.visit_eq]

theorem forest_isEmpty : d.forest.isEmpty = d'.forest.isEmpty := by
  obtain ⟨front, x, y, back, forest, forest', -⟩ := h.exists_forest
  rw [forest, forest']
  cases front <;> rfl

theorem mode?_eq : d.mode? = d'.mode? := by
  refine mode?_congr ?_
  obtain ⟨workflow, -, -⟩ := h
  rw [workflow]
  rfl

theorem bucketFindings_eq (config : Config) (mode : Mode) (b : Bucket) :
    d.bucketFindings config mode b = d'.bucketFindings config mode b := by
  have declared : d.workflow.present?.map WorkflowBody.declarations =
      d'.workflow.present?.map WorkflowBody.declarations := by
    obtain ⟨workflow, -, -⟩ := h
    rw [workflow]
    rfl
  have references : d.atomicReferences = d'.atomicReferences := by
    cases h
    rfl
  have walk := h.walk_eq
  have empty := h.forest_isEmpty
  exact match b with
    | .properties => by
      cases h
      rfl
    | .variables => by simp only [bucketFindings, Rules.declarations, declared]
    | .triggers => by
      cases h
      rfl
    | .targets => by
      cases h
      rfl
    | .activities => by simp only [bucketFindings, Rules.activities, walk, empty]
    | .atomics => by simp only [bucketFindings, Rules.atomics, walk, references]
    | .statistics => by simp only [bucketFindings, Rules.statistics, walk]

/-- Reports do not show what activities keep. -/
theorem report_eq (config : Config) : d.report config = d'.report config := by
  simp only [report, h.mode?_eq, findings_eq_of_bucketFindings (h.bucketFindings_eq config _)]

end DiffersAt

end Document

/-- **No property is lost or counted twice.** A document is read from every text of an object, and each
of its activities divides the properties of its node. If another text differs in one property without
a meaning, its document differs in that entry alone, and every analysis has the same outcome. -/
theorem extras_of_document {text : String} {v : Json} (read : Json.ofText text = .ok v)
    (object : v.isObject) :
    ∃ d, Document.ofText text = .ok d ∧
      List.Forall₂ (fun node a => ∀ p, node.get? "properties" = some p → Activity.Divides a p)
        v.actionNodes d.activities ∧
      ∀ key ∉ Activity.judged, ∀ text' w, Json.ofText text' = .ok w → v.PropertyEdit key w →
        ∃ d', Document.ofText text' = .ok d' ∧ d.DiffersAt key d' ∧
          ∀ config, analyze text config = analyze text' config := by
  have document {text : String} {v : Json} (read : Json.ofText text = .ok v) (object : v.isObject) :
      Document.ofText text = .ok (Document.ofMembers v.fields) := by
    obtain ⟨members, rfl⟩ := Json.isObject_iff.1 object
    exact (Document.ofText_eq_ok_iff text _).2 ⟨members, read, rfl⟩
  refine ⟨Document.ofMembers v.fields, document read object, ?_, ?_⟩
  · rw [Document.activities_fields, List.forall₂_map_right_iff, List.forall₂_same]
    exact fun node _ p properties => Activity.divides_ofNode properties
  · intro key unknown text' w read' edit
    obtain ⟨_, _, -, after, -⟩ := edit.inside
    have object' : w.isObject := Json.isObject_of_get? after
    have differ := Document.differsAt_ofMembers unknown edit
    refine ⟨Document.ofMembers w.fields, document read' object', differ, fun config => ?_⟩
    rw [analyze_of_read read, analyze_of_read read', if_pos object, if_pos object',
      differ.report_eq]

/-- An action with a block that has a note, a flag and an identifier of the wrong kind. -/
def annotated (note : Json) : Json :=
  atomicWith [("actions", .arr [.obj [("blocks", .arr [.obj [("properties", .obj
    [("note", note), ("continue_on_failure", .obj []), ("workflow_id", .num (.int 7))])]])]])]

example : (Document.ofMembers (annotated (.obj [("b", .null), ("a", .null)])).fields).activities.map
    Activity.extra = [[], [("note", .obj [("a", .null), ("b", .null)])]] := rfl

theorem propertyEdit_annotated (note note' : Json) :
    (annotated note).PropertyEdit "note" (annotated note') where
  outside := Json.equalBut_put "workflow" _ _
  inside := by
    refine ⟨_, _, rfl, rfl, Json.equalBut_put "actions" _ _, [], _, _, [], rfl, rfl, ?_⟩
    refine .child "blocks" [] [] (by decide) (Json.equalBut_put "blocks" _ _) rfl rfl ?_
    exact .here (Json.equalBut_put "properties" _ _) rfl rfl (Json.equalBut_put "note" _ _)

theorem extras_of_document_annotated :
    (annotated (.str "x")).isObject ∧ (annotated (.str "x")).PropertyEdit "note" (annotated .null) ∧
    ∃ d d', Document.ofText (annotated (.str "x")).compact = .ok d ∧
      Document.ofText (annotated .null).compact = .ok d' ∧ d.DiffersAt "note" d' ∧
      analyze (annotated (.str "x")).compact .builtIn = analyze (annotated .null).compact .builtIn := by
  have before : Json.ofText (annotated (.str "x")).compact = .ok (annotated (.str "x")) := by
    apply Json.ofText_compact_of_exact
    simp [annotated, atomicWith, Json.nestingLimit]
  have after : Json.ofText (annotated .null).compact = .ok (annotated .null) := by
    apply Json.ofText_compact_of_exact
    simp [annotated, atomicWith, Json.nestingLimit]
  have edit := propertyEdit_annotated (.str "x") .null
  obtain ⟨d, document, -, seen⟩ := extras_of_document before rfl
  obtain ⟨d', document', differ, same⟩ := seen "note" (by decide) _ _ after edit
  exact ⟨rfl, edit, d, d', document, document', differ, same .builtIn⟩

end WorkflowLint
