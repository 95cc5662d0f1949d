import WorkflowLint.Proofs.Document.Edits
import WorkflowLint.Proofs.Json.RoundTrip
import WorkflowLint.Proofs.Rules.Headlines

/-!
# Documents whose report is read from its text

The headlines of a report show names, types, keys and references as the document has them, and a line
feed among these is written as it is. A report can be read back from its text just if there is none
in a headline; that is so if the document has none where headlines take their texts from, and then
it does not matter what stands elsewhere (`text_faithful_iff`).
-/

set_option autoImplicit false

namespace WorkflowLint

open Markup

/-! ### Reading unbroken values -/

namespace Json.Unbroken

theorem fields {v : Json} (h : v.Unbroken) : (Json.obj v.fields).Unbroken := by
  by_cases object : v.isObject
  · rw [← settle_of_isObject object]
    exact h.settle
  · rw [Json.fields, members?_settle, if_neg object]
    exact .obj (fun _ mem => absurd mem List.not_mem_nil) fun _ mem => absurd mem List.not_mem_nil

theorem at? {v : Json} (h : v.Unbroken) (path : List String) : ∀ w ∈ v.at? path, w.Unbroken := by
  induction path generalizing v with
  | nil =>
    rintro w ⟨⟩
    exact h
  | cons key rest ih =>
    intro w there
    obtain ⟨x, found, below⟩ := Option.bind_eq_some_iff.1 there
    exact ih (h.get? found) w below

theorem nodes {items : List Json} (h : ∀ v ∈ items, v.Unbroken) : ∀ v ∈ Json.nodes items, v.Unbroken := by
  induction items using Json.nodes.induct with
  | case1 => simp [Json.nodes]
  | case2 v rest object blocks actions siblings =>
    obtain ⟨here, others⟩ := List.forall_mem_cons.1 h
    rw [Json.nodes, if_pos object]
    refine List.forall_mem_append.2 ⟨List.forall_mem_append.2 ⟨?_, ?_⟩, siblings others⟩
    · exact List.forall_mem_cons.2 ⟨here, blocks (here.itemsAt "blocks")⟩
    · exact actions (here.itemsAt "actions")
  | case3 v rest other siblings =>
    rw [Json.nodes, if_neg other]
    exact siblings (List.forall_mem_cons.1 h).2

theorem actionNodes {v : Json} (h : v.Unbroken) : ∀ node ∈ v.actionNodes, node.Unbroken := by
  refine nodes fun x mem => ?_
  obtain ⟨items, list, mem⟩ := exists_of_mem_getD mem
  obtain ⟨w, there, items?⟩ := Option.bind_eq_some_iff.1 list
  exact (h.at? _ w there).items? items? x mem

theorem oneLine_string? {v : Json} (h : v.Unbroken) : ∀ s ∈ v.string?, OneLine s := by
  cases h with
  | str text =>
    rintro s ⟨⟩
    exact text
  | _ => exact fun _ mem => absurd mem (Option.not_mem_none _)

theorem members? {v : Json} (h : v.Unbroken) : ∀ members ∈ v.members?, (Json.obj members).Unbroken := by
  cases v with
  | obj members =>
    rintro _ ⟨⟩
    exact h
  | _ => exact fun _ mem => absurd mem (Option.not_mem_none _)

variable {members : Members Json} (h : (Json.obj members).Unbroken) (key : String)

include h

theorem lookup : ∀ v ∈ members.lookup key, v.Unbroken := by
  intro v found
  obtain ⟨before, behind, rfl, -⟩ := List.lookup_eq_some_iff.1 found
  cases h with
  | obj _ inside => exact inside (key, v) (List.mem_append_right _ List.mem_cons_self)

theorem string? : ∀ s ∈ Members.string? members key, OneLine s := by
  intro s text
  obtain ⟨v, found, text⟩ := Option.bind_eq_some_iff.1 text
  exact (h.lookup key v found).oneLine_string? s text

theorem items : ∀ v ∈ Members.items members key, v.Unbroken := by
  intro v mem
  obtain ⟨items, list, mem⟩ := exists_of_mem_getD mem
  obtain ⟨w, found, items?⟩ := Option.bind_eq_some_iff.1 list
  exact (h.lookup key w found).items? items? v mem

theorem object : (Json.obj (Members.object members key)).Unbroken := by
  unfold Members.object
  cases inner : (members.lookup key).bind Json.members? with
  | none =>
    exact .obj (fun _ mem => absurd mem List.not_mem_nil) fun _ mem => absurd mem List.not_mem_nil
  | some inner =>
    obtain ⟨v, found, members?⟩ := Option.bind_eq_some_iff.1 inner
    exact (h.lookup key v found).members? _ members?

/-- What a field holds was read from an unbroken value. -/
theorem field {α : Type} {read? : Json → Option α} :
    ∀ a ∈ (Members.field members key read?).present?, ∃ v : Json, v.Unbroken ∧ read? v = some a := by
  intro a present
  unfold Members.field Field.ofJson? at present
  split at present
  · cases present
  · cases present
  · next v _ found =>
    split at present
    · next read =>
      cases present
      exact ⟨v, h.lookup key v found, read⟩
    · cases present

/-- What is read from the items of a list was read from an unbroken one. -/
theorem filterMap_items {α : Type} {read? : Json → Option α} :
    ∀ a ∈ (Members.items members key).filterMap read?, ∃ v : Json, v.Unbroken ∧ read? v = some a := by
  intro a mem
  obtain ⟨v, there, read⟩ := List.mem_filterMap.1 mem
  exact ⟨v, h.items key v there, read⟩

end Json.Unbroken

/-! ### The parts of a document -/

theorem Category.oneLine_displayName {v : Json} (h : v.Unbroken) :
    OneLine (ofJson v).displayName := by
  unfold ofJson
  split
  · exact h.oneLine_string? _ rfl
  · split
    · next name => exact h.string? "name" _ name
    · exact Json.oneLine_compact _
  · exact Json.oneLine_compact _

theorem Variable.oneLine_texts {v : Json} {x : Variable} (h : v.Unbroken)
    (read : ofJson? v = some x) :
    (∀ s ∈ x.name, OneLine s) ∧ (∀ s ∈ x.scope, OneLine s) ∧ ∀ s ∈ x.type, OneLine s := by
  obtain ⟨members, object, read⟩ := Option.bind_eq_some_iff.1 read
  obtain ⟨inner, found, read⟩ := Option.bind_eq_some_iff.1 read
  obtain ⟨properties, object', read⟩ := Option.bind_eq_some_iff.1 read
  cases read
  have outer := h.members? members object
  have texts := (outer.lookup "properties" inner found).members? properties object'
  exact ⟨texts.string? "name", texts.string? "scope", texts.string? "type"⟩

theorem Trigger.oneLine_texts {v : Json} {t : Trigger} (h : v.Unbroken)
    (read : ofJson? v = some t) : (∀ s ∈ t.name, OneLine s) ∧ ∀ s ∈ t.type, OneLine s := by
  obtain ⟨members, object, rfl⟩ := Option.map_eq_some_iff.1 read
  have texts := h.members? members object
  exact ⟨texts.string? "name", texts.string? "type"⟩

theorem TargetGroup.oneLine_texts {v : Json} (h : v.Unbroken) :
    (∀ s ∈ (ofJson v).name, OneLine s) ∧
      ∀ t ∈ (ofJson v).targets, ∀ s ∈ t.type, OneLine s := by
  have texts : (Json.obj (v.members?.getD [])).Unbroken := by
    cases object : v.members? with
    | none => exact .obj (List.forall_mem_nil _) (List.forall_mem_nil _)
    | some members => exact h.members? members object
  refine ⟨texts.string? "name", fun t mem => ?_⟩
  obtain ⟨w, item, read⟩ := texts.filterMap_items "targets" t mem
  obtain ⟨members, object, rfl⟩ := Option.map_eq_some_iff.1 read
  exact (item.members? members object).string? "data_target_type"

theorem Activity.oneLine_displayName {node : Json} (h : node.Unbroken) :
    ∀ s ∈ (ofNode node).displayName, OneLine s :=
  (h.fields.object "properties").string? "display_name"

/-- A document that is read from an unbroken value has no text with a line feed to show. -/
theorem Json.Unbroken.oneLiner {v : Json} (h : v.Unbroken) : (Document.ofMembers v.fields).OneLiner where
  categories := by
    intro name mem
    obtain ⟨c, listed, rfl⟩ := List.mem_map.1 mem
    obtain ⟨cs, present, inside⟩ := exists_of_mem_getD listed
    obtain ⟨w, list, read⟩ := h.fields.field "categories" cs present
    obtain ⟨items, items?, rfl⟩ := Option.map_eq_some_iff.1 read
    obtain ⟨x, here, rfl⟩ := List.mem_map.1 inside
    exact Category.oneLine_displayName (list.items? items? x here)
  declared := by
    intro body there vs present x mem
    obtain ⟨w, unbroken, read⟩ := h.fields.field "workflow" body there
    obtain ⟨members, object, rfl⟩ := Option.map_eq_some_iff.1 read
    obtain ⟨u, list, read⟩ := (unbroken.members? members object).field "variables" vs present
    obtain ⟨items, items?, rfl⟩ := Option.map_eq_some_iff.1 read
    obtain ⟨y, mem, read⟩ := List.mem_map.1 mem
    exact Variable.oneLine_texts (list.items? items? y mem) read
  triggers := by
    intro t listed
    obtain ⟨ts, present, inside⟩ := exists_of_mem_getD listed
    obtain ⟨w, list, read⟩ := h.fields.field "triggers" ts present
    obtain ⟨items, items?, rfl⟩ := Option.map_eq_some_iff.1 read
    obtain ⟨x, here, read⟩ := List.mem_filterMap.1 inside
    exact Trigger.oneLine_texts (list.items? items? x here) read
  groups := by
    intro g listed
    obtain ⟨gs, present, inside⟩ := exists_of_mem_getD listed
    obtain ⟨w, unbroken, read⟩ := h.fields.field "target_groups" gs present
    obtain ⟨members, object, rfl⟩ := Option.map_eq_some_iff.1 read
    obtain ⟨m, here, rfl⟩ := List.mem_map.1 inside
    cases unbroken.members? members object with
    | obj keys values => exact ⟨keys m here, TargetGroup.oneLine_texts (values m here)⟩
  activities := by
    intro a listed
    rw [Document.activities_fields] at listed
    obtain ⟨node, there, rfl⟩ := List.mem_map.1 listed
    exact Activity.oneLine_displayName (h.actionNodes node there)
  references := by
    intro r mem
    obtain ⟨x, listed, rfl⟩ := List.mem_map.1 mem
    obtain ⟨items, present, inside⟩ := exists_of_mem_getD listed
    obtain ⟨w, list, items?⟩ := h.fields.field "atomic_workflows" items present
    have unbroken := list.items? items? x inside
    cases x with
    | str s => exact unbroken.oneLine_string? s rfl
    | _ => exact Json.oneLine_compact _

/-! ### Analyses -/

theorem Rules.oneLine_of_mem_codes {b : Bucket} : ∀ code ∈ b.codes, OneLine code := by
  cases b <;> decide

/-- The report on a value is read from its text exactly if its headlines are on one line. -/
theorem Json.faithful_report_iff (v : Json) (config : Config) (flag : Bool) :
    (v.report config flag).Faithful ↔ ∀ p ∈ (v.report config flag).toList, p.2.OnOneLine := by
  refine Report.faithful_iff fun b f mem => ?_
  rw [Document.inBucket_report] at mem
  exact Rules.oneLine_of_mem_codes f.code (Rules.codesOf_bucketFindings _ config _ b f mem)

theorem Json.faithful_report {v : Json} (h : (Document.ofMembers v.fields).OneLiner)
    (config : Config) (flag : Bool) : (v.report config flag).Faithful := by
  rw [faithful_report_iff]
  rintro ⟨b, f⟩ mem
  have found := Report.mem_toList_ofPushes.1 mem
  rw [Document.inBucket_report] at found
  exact Rules.onOneLine_bucketFindings h config _ b f found

/-- **A report is read from its text** exactly if no title and no description in it has a line feed.
So it is if the texts of the document that these are made of have none, and the more so if the
document has none anywhere. -/
theorem text_faithful_iff {text : String} {v : Json} {config : Config} {report : Report}
    (read : Json.ofText text = .ok v) (h : analyze text config = .ok report) :
    (report.Faithful ↔ ∀ p ∈ report.toList, p.2.OnOneLine) ∧
    ((Document.ofMembers v.fields).OneLiner → report.Faithful) ∧
    (v.Unbroken → report.Faithful) := by
  obtain ⟨members, flag, read', -, rfl⟩ := exists_of_analyze_eq_ok h
  cases read.symm.trans read'
  exact ⟨Json.faithful_report_iff _ config flag, fun texts => Json.faithful_report texts config flag,
    fun unbroken => Json.faithful_report unbroken.oneLiner config flag⟩

/-- An atomic action with one action of this name, which goes on after a failure. -/
def carryingOn (name : String) : Json :=
  atomicWith [("actions", .arr [.obj [("properties",
    .obj [("display_name", .str name), ("continue_on_failure", .bool true)])]])]

theorem ofText_carryingOn (name : String) :
    Json.ofText (carryingOn name).compact = .ok (carryingOn name) := by
  apply Json.ofText_compact_of_exact
  simp [carryingOn, atomicWith, Json.nestingLimit]

theorem unbroken_carryingOn {name : String} (h : OneLine name) : (carryingOn name).Unbroken := by
  have keys : ∀ key ∈ ["workflow", "properties", "atomic", "is_atomic", "actions", "display_name",
      "continue_on_failure"], OneLine key := by decide
  simp only [List.forall_mem_cons] at keys
  simp [carryingOn, atomicWith, h, keys]

theorem mem_toList_carryingOn {name : String} (h : name.isEmpty = false) :
    (Bucket.activities, Rules.otherContinues name) ∈
      ((carryingOn name).report .builtIn true).toList := by
  have findings : Rules.activities (.ofBool true) (Document.ofMembers (carryingOn name).fields) =
      [Rules.activitiesOverview .atomicAction,
        Rules.otherContinues (if name.isEmpty then "Unnamed Action" else name)] := rfl
  refine Report.mem_toList_ofPushes.2 ?_
  rw [Document.inBucket_report, Document.bucketFindings, findings, h]
  exact List.mem_cons_of_mem _ List.mem_cons_self

theorem text_faithful_notify :
    ∃ report, analyze (carryingOn "Notify").compact .builtIn = .ok report ∧
      (report.Faithful ↔ ∀ p ∈ report.toList, p.2.OnOneLine) ∧ report.Faithful := by
  have read := ofText_carryingOn "Notify"
  have analysed := analyze_eq_report read rfl .builtIn
  obtain ⟨exactly, -, unbroken⟩ := text_faithful_iff read analysed
  exact ⟨_, analysed, exactly, unbroken (unbroken_carryingOn (by decide))⟩

/-- The name of an action may bring a headline of its own. -/
theorem not_faithful_forged :
    ∃ report, analyze (carryingOn "Notify\n  [error  ] ACT000 Forged").compact .builtIn = .ok report ∧
      ¬report.Faithful := by
  refine ⟨_, analyze_eq_report (ofText_carryingOn _) rfl .builtIn, fun faithful => ?_⟩
  rw [Json.faithful_report_iff] at faithful
  obtain ⟨title, -⟩ := faithful _ (mem_toList_carryingOn (by decide))
  exact absurd title (by decide)

end WorkflowLint
