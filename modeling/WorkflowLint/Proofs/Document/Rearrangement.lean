import WorkflowLint.Proofs.Document.Faults
import WorkflowLint.Proofs.Json.RoundTrip
import WorkflowLint.Proofs.Json.Settled
import WorkflowLint.Proofs.Report.Frame
import WorkflowLint.Proofs.Rules.Rearrangement

/-!
# Rearranging a document

`Json.Rearranged` relates values that hold the same but for order: the items of four lists of a
document and of the targets of each group, the groups themselves, and the nodes of the action forest,
which may be moved to any other place in it. Values so related are read as documents that hold the
same (`Json.Rearranged.document`), so the texts they come from have the same outcome and their reports
count the same (`analyze_rearranged`).
-/

set_option autoImplicit false

namespace WorkflowLint

namespace Json

/-- The fields hold the same, or lists of the same items. -/
inductive Shuffled : Option Json → Option Json → Prop
  | same (v : Option Json) : Shuffled v v
  | items {items items' : List Json} (permuted : items.Perm items') :
    Shuffled (some (.arr items)) (some (.arr items'))

/-- The values hold the same under each key; the order of the `lists` does not matter, nor does it
matter what the `free` keys hold. -/
structure Reordered (lists free : List String) (v w : Json) : Prop where
  object : v.isObject = w.isObject
  shuffled : ∀ key ∈ lists, Shuffled (v.get? key) (w.get? key)
  others : ∀ key, key ∉ lists → key ∉ free → v.get? key = w.get? key

/-- The target groups of a document by their identifiers. -/
def groups (v : Json) : Members Json := ((v.get? "target_groups").map fields).getD []

end Json

/-- A node without its children: its type, its base type and its properties. -/
def Node.own (node : Json) : Json :=
  .obj (["type", "base_type", "properties"].filterMap fun key =>
    (node.get? key).map fun v => (key, v))

/-- The values hold the same but for the order of variables, triggers, categories, references,
groups and targets, and for where in the action forest its nodes stand. -/
structure Json.Rearranged (v w : Json) : Prop where
  root : v.Reordered ["categories", "triggers", "atomic_workflows"] ["target_groups", "workflow"] w
  workflow : Option.Rel (Reordered ["variables"] ["actions"]) (v.get? "workflow") (w.get? "workflow")
  groups : ∃ groups, v.groups.Perm groups ∧
    List.Forall₂ (fun g h => g.1 = h.1 ∧ g.2.Reordered ["targets"] [] h.2) groups w.groups
  nodes : (v.actionNodes.map Node.own).Perm (w.actionNodes.map Node.own)

namespace Json

/-! ### What is seen of lists -/

theorem Shuffled.items? {v w : Option Json} (h : Shuffled v w) :
    Option.Rel List.Perm (v.bind Json.items?) (w.bind Json.items?) := by
  cases h with
  | same v =>
    cases v.bind Json.items? with
    | none => exact .none
    | some items => exact .some (List.Perm.refl items)
  | items permuted => exact .some permuted

theorem Shuffled.any_isNull {v w : Option Json} (h : Shuffled v w) : v.any isNull = w.any isNull := by
  cases h with
  | same => rfl
  | items => rfl

theorem perm_getD {α : Type} {xs ys : Option (List α)} (h : Option.Rel List.Perm xs ys) :
    (xs.getD []).Perm (ys.getD []) := by
  cases h with
  | none => exact List.Perm.nil
  | some permuted => exact permuted

theorem rel_map {α β : Type} (f : α → β) {xs ys : Option (List α)} (h : Option.Rel List.Perm xs ys) :
    Option.Rel List.Perm (xs.map (List.map f)) (ys.map (List.map f)) := by
  cases h with
  | none => exact .none
  | some permuted => exact .some (permuted.map f)

namespace Reordered

variable {lists free : List String} {v w : Json}

theorem itemsAt_perm (h : Reordered lists free v w) {key : String} (mem : key ∈ lists) :
    (v.itemsAt key).Perm (w.itemsAt key) :=
  perm_getD (h.shuffled key mem).items?

variable {a b : Option Json} (h : Option.Rel (Reordered lists free) a b)

include h

/-- What an object has under a key that is neither a list nor free. -/
theorem lookup_filter_eq {key : String} (notList : key ∉ lists) (notFree : key ∉ free) :
    (a.filter isObject).map (fun v => v.fields.lookup key) =
      (b.filter isObject).map fun v => v.fields.lookup key := by
  cases h with
  | none => rfl
  | @some v w same =>
    rw [Option.filter_some, Option.filter_some, same.object]
    split
    · rw [Option.map_some, Option.map_some, lookup_fields, lookup_fields,
        same.others key notList notFree]
    · rfl

theorem shuffled_bind {key : String} (mem : key ∈ lists) :
    Shuffled (a.bind fun v => v.get? key) (b.bind fun v => v.get? key) := by
  cases h with
  | none => exact .same none
  | some same => exact same.shuffled key mem

end Reordered

theorem settled_of_mem_fields {v : Json} {m : String × Json} (h : m ∈ v.fields) : m.2.Settled := by
  by_cases object : v.isObject
  · have settled := settled_settle v
    rw [settle_of_isObject object, settled_obj_iff] at settled
    exact settled.2 m h
  · rw [fields, members?_settle, if_neg object] at h
    cases h

theorem settled_of_mem_groups {v : Json} {m : String × Json} (h : m ∈ v.groups) : m.2.Settled := by
  unfold groups at h
  cases hg : v.get? "target_groups" with
  | none =>
    rw [hg] at h
    cases h
  | some w =>
    rw [hg] at h
    exact settled_of_mem_fields h

end Json

/-! ### Groups -/

/-- A settled group is read off its fields. -/
theorem TargetGroup.ofJson_of_settled {g : Json} (h : g.Settled) :
    TargetGroup.ofJson g = ⟨(g.get? "name").bind Json.string?,
      ((g.itemsAt "targets").map Json.settle).filterMap GroupTarget.ofJson?⟩ := by
  have members : g.members?.getD [] = g.fields := by rw [Json.fields, h]
  unfold TargetGroup.ofJson
  dsimp only
  rw [members, Members.string?_fields, Members.items_fields]

theorem TargetGroup.rearranged_ofJson {g h : String × Json} (settled : g.2.Settled)
    (settled' : h.2.Settled) (id : g.1 = h.1) (same : g.2.Reordered ["targets"] [] h.2) :
    TargetGroup.Rearranged (g.1, ofJson g.2) (h.1, ofJson h.2) := by
  rw [ofJson_of_settled settled, ofJson_of_settled settled']
  refine ⟨id, ?_, ?_⟩
  · show (g.2.get? "name").bind Json.string? = (h.2.get? "name").bind Json.string?
    rw [same.others "name" (by decide) (by decide)]
  · have targets := same.itemsAt_perm (List.mem_singleton.2 rfl)
    exact (targets.map Json.settle).filterMap _

theorem TargetGroup.forall₂_rearranged {groups groups' : Members Json}
    (settled : ∀ g ∈ groups, g.2.Settled) (settled' : ∀ g ∈ groups', g.2.Settled)
    (same : List.Forall₂ (fun g h => g.1 = h.1 ∧ g.2.Reordered ["targets"] [] h.2) groups groups') :
    List.Forall₂ TargetGroup.Rearranged (groups.map fun g => (g.1, ofJson g.2))
      (groups'.map fun g => (g.1, ofJson g.2)) := by
  induction same with
  | nil => exact .nil
  | cons first _ ih =>
    obtain ⟨here, others⟩ := List.forall_mem_cons.1 settled
    obtain ⟨here', others'⟩ := List.forall_mem_cons.1 settled'
    exact .cons (rearranged_ofJson here here' first.1 first.2) (ih others others')

theorem Document.targetGroups_fields (v : Json) :
    (Document.ofMembers v.fields).targetGroups.present?.getD [] =
      v.groups.map fun g => (g.1, TargetGroup.ofJson g.2) := by
  have present : (Document.ofMembers v.fields).targetGroups.present? =
      ((v.get? "target_groups").filter Json.isObject).map fun w =>
        w.fields.map fun g => (g.1, TargetGroup.ofJson g.2) :=
    Members.present?_field_object v "target_groups" _
  rw [present, Json.groups]
  cases v.get? "target_groups" with
  | none => rfl
  | some w =>
    by_cases object : w.isObject
    · rw [Option.filter_some, if_pos object]
      rfl
    · have empty : w.fields = [] := by
        rw [Json.fields, Json.members?_settle, if_neg object]
        rfl
      rw [Option.filter_some, if_neg object, Option.map_some, Option.getD_some, empty]
      rfl

/-! ### Nodes -/

/-- Members that are taken over from elsewhere, key by key. -/
theorem Members.lookup_filterMap {α : Type} (found : String → Option α) (keys : List String)
    (key : String) :
    (keys.filterMap fun k => (found k).map fun v => (k, v)).lookup key =
      if key ∈ keys then found key else none := by
  induction keys with
  | nil => rfl
  | cons k rest ih =>
    by_cases here : key = k
    · subst here
      cases h : found key with
      | none =>
        rw [List.filterMap_cons_none (by rw [h]; rfl), ih, h]
        simp
      | some v =>
        rw [List.filterMap_cons_some (by rw [h]; rfl), lookup_cons_ite]
        simp
    · cases h : found k with
      | none =>
        rw [List.filterMap_cons_none (by rw [h]; rfl), ih]
        simp [here]
      | some v =>
        rw [List.filterMap_cons_some (by rw [h]; rfl), lookup_cons_ite, ih]
        simp [here]

namespace Node

theorem get?_own (node : Json) {key : String} (h : key ∈ ["type", "base_type", "properties"]) :
    (own node).get? key = node.get? key := by
  show (List.reverse _).lookup key = _
  rw [← List.filterMap_reverse, Members.lookup_filterMap, if_pos (List.mem_reverse.2 h)]

/-- An activity shows nothing of the children of its node. -/
theorem activity_own (node : Json) : Activity.ofNode (own node) = Activity.ofNode node :=
  Activity.ofNode_eq_of_get? fun _ => get?_own node

end Node

/-! ### Documents -/

theorem Document.properties_fields (v : Json) :
    (Document.ofMembers v.fields).workflow.present?.map WorkflowBody.properties =
      (((v.get? "workflow").filter Json.isObject).map fun w => w.fields.lookup "properties").map
        (Field.ofJson? WorkflowProperties.ofJson?) := by
  have workflow : (Document.ofMembers v.fields).workflow.present? = _ :=
    Members.present?_field_object v "workflow" _
  rw [workflow, Option.map_map, Option.map_map]
  rfl

namespace Json.Rearranged

variable {v w : Json} (h : v.Rearranged w)

include h

theorem shuffled_variables :
    Shuffled (v.at? ["workflow", "variables"]) (w.at? ["workflow", "variables"]) := by
  have shuffled := Reordered.shuffled_bind h.workflow (List.mem_singleton.2 rfl)
  simpa only [at?, Option.bind_fun_some] using shuffled

theorem activities :
    (v.actionNodes.map Activity.ofNode).Perm (w.actionNodes.map Activity.ofNode) := by
  have own (u : Json) : (u.actionNodes.map Node.own).map Activity.ofNode =
      u.actionNodes.map Activity.ofNode := by
    rw [List.map_map]
    exact List.map_congr_left fun n _ => Node.activity_own n
  have permuted := h.nodes.map Activity.ofNode
  rwa [own, own] at permuted

/-- What has only been rearranged is read as the same. -/
theorem document : (Document.ofMembers v.fields).Rearranged (Document.ofMembers w.fields) where
  mode := by
    apply Document.mode?_congr
    rw [Document.properties_fields, Document.properties_fields,
      Reordered.lookup_filter_eq h.workflow (by decide) (by decide)]
  globals := by
    rw [Document.isNull_declared_fields, Document.isNull_declared_fields]
    exact h.shuffled_variables.any_isNull
  declared := by
    rw [Document.present?_declared_fields, Document.present?_declared_fields, variables?, variables?]
    exact rel_map _ h.shuffled_variables.items?
  embedded := by
    rw [Document.isSet_targets_fields, Document.isSet_targets_fields, hasTargets, hasTargets,
      h.root.others "targets" (by decide) (by decide)]
  groups := by
    obtain ⟨groups, permuted, same⟩ := h.groups
    rw [Document.targetGroups_fields, Document.targetGroups_fields]
    have settled (g : String × Json) (hg : g ∈ groups) : g.2.Settled :=
      settled_of_mem_groups (permuted.mem_iff.2 hg)
    exact ⟨_, permuted.map _,
      TargetGroup.forall₂_rearranged settled (fun _ => settled_of_mem_groups) same⟩
  activities := by
    rw [Document.activities_fields, Document.activities_fields]
    exact h.activities
  references := by
    rw [Document.atomicReferences_fields, Document.atomicReferences_fields]
    exact (h.root.itemsAt_perm (by decide)).map _

end Json.Rearranged

/-- **What is counted is what a document contains.** Two texts that hold the same but for order have
the same outcome, and if there are reports, they have the same summary and in every bucket the same
codes with their severities, each as often; on variables, targets and activities they have the same
findings, each as often. -/
theorem analyze_rearranged {text text' : String} {v w : Json} (before : Json.ofText text = .ok v)
    (after : Json.ofText text' = .ok w) (h : v.Rearranged w) (config : Config) :
    (∀ f, analyze text config = .error f ↔ analyze text' config = .error f) ∧
      ∀ r, analyze text config = .ok r →
        ∃ s, analyze text' config = .ok s ∧ r.SameTallies s := by
  rw [analyze_of_read before, analyze_of_read after, h.root.object]
  split
  · exact Document.report_rearranged h.document config
  · exact ⟨fun _ => Iff.rfl, fun _ hr => nomatch hr⟩

/-- A workflow with these lists, and with a group that has these targets between two others. -/
def assembled (categories triggers references declared targets actions : List Json)
    (front back : Members Json) : Json :=
  .obj [("categories", .arr categories), ("triggers", .arr triggers),
    ("atomic_workflows", .arr references),
    ("target_groups", .obj (front ++ ("default", .obj [("targets", .arr targets)]) :: back)),
    ("workflow", .obj [("properties", .obj [("atomic", .obj [("is_atomic", .bool false)])]),
      ("variables", .arr declared), ("actions", .arr actions)])]

/-- A node that calls a workflow. -/
def caller (id : String) (below : Members Json) : Json :=
  .obj (("base_type", .str "subworkflow") :: ("properties", .obj [("workflow_id", .str id)]) :: below)

def orderly : Json :=
  assembled [.str "a", .str "b"] [.null, .str "t"] [.str "7", .num (.int 8)] [.null, .obj []]
    [.obj [("data_target_type", .str "x")], .obj [("selected_target_ids", .arr [.null])]]
    [caller "7" [("blocks", .arr [.obj []]), ("actions", .arr [caller "8" []])], .str "none"]
    [("first", .null)] []

/-- Every list of `orderly` is turned round, the group is moved, and the forest is flat. -/
def disorderly : Json :=
  assembled [.str "b", .str "a"] [.str "t", .null] [.num (.int 8), .str "7"] [.obj [], .null]
    [.obj [("selected_target_ids", .arr [.null])], .obj [("data_target_type", .str "x")]]
    [caller "8" [], caller "7" [], .obj []] [] [("first", .null)]

theorem rearranged_disorderly : orderly.Rearranged disorderly where
  root := by
    refine ⟨rfl, ?_, fun key lists free => ?_⟩
    · intro key hk
      simp only [List.mem_cons, List.not_mem_nil, or_false] at hk
      rcases hk with rfl | rfl | rfl <;> exact .items (List.Perm.swap _ _ _)
    · simp only [List.mem_cons, List.not_mem_nil, or_false, not_or] at lists free
      simp [orderly, disorderly, assembled, Json.get?, Json.members?, lookup_cons_ite, lists, free]
  workflow := by
    refine .some ⟨rfl, ?_, fun key lists free => ?_⟩
    · intro key hk
      rw [List.mem_singleton.1 hk]
      exact .items (List.Perm.swap _ _ _)
    · simp only [List.mem_singleton] at lists free
      simp [Json.get?, Json.members?, lookup_cons_ite, lists, free]
  groups := by
    have first : (Json.null).Reordered ["targets"] [] .null :=
      ⟨rfl, fun _ _ => .same _, fun _ _ _ => rfl⟩
    refine ⟨_, List.Perm.swap _ _ _, .cons ⟨rfl, rfl, ?_, fun key lists _ => ?_⟩
      (.cons ⟨rfl, first⟩ .nil)⟩
    · intro key hk
      rw [List.mem_singleton.1 hk]
      exact .items (List.Perm.swap _ _ _)
    · have other (v : Json) : (Json.obj [("targets", v)]).get? key = none := by
        rw [List.mem_singleton] at lists
        simp [Json.get?, Json.members?, lookup_cons_ite, lists]
      exact (other _).trans (other _).symm
  nodes := by
    have before : orderly.actionNodes.map Node.own =
        [caller "7" [], .obj [], caller "8" []] := by
      simp [Json.actionNodes, Json.nodes, orderly, assembled, caller, Json.at?, Json.get?,
        Json.members?, Json.items?, Json.itemsAt, Json.isObject, Node.own, lookup_cons_ite]
    have after : disorderly.actionNodes.map Node.own =
        [caller "8" [], caller "7" [], .obj []] := by
      simp [Json.actionNodes, Json.nodes, disorderly, assembled, caller, Json.at?, Json.get?,
        Json.members?, Json.items?, Json.itemsAt, Json.isObject, Node.own, lookup_cons_ite]
    rw [before, after]
    show ([caller "7" [], .obj []] ++ [caller "8" []]).Perm ([caller "8" []] ++ _)
    exact List.perm_append_comm

theorem analyze_rearranged_disorderly :
    orderly.Rearranged disorderly ∧
      ∃ r s, analyze orderly.compact .builtIn = .ok r ∧ analyze disorderly.compact .builtIn = .ok s ∧
        r.SameTallies s := by
  have before : Json.ofText orderly.compact = .ok orderly := by
    apply Json.ofText_compact_of_exact
    simp [orderly, assembled, caller, Json.nestingLimit]
  have after : Json.ofText disorderly.compact = .ok disorderly := by
    apply Json.ofText_compact_of_exact
    simp [disorderly, assembled, caller, Json.nestingLimit]
  obtain ⟨r, analyzed⟩ : ∃ r, analyze orderly.compact .builtIn = .ok r := by
    rw [analyze_of_read before]
    exact ⟨_, rfl⟩
  obtain ⟨s, analyzed', tallies⟩ :=
    (analyze_rearranged before after rearranged_disorderly .builtIn).2 _ analyzed
  exact ⟨rearranged_disorderly, r, s, analyzed, analyzed', tallies⟩

end WorkflowLint
