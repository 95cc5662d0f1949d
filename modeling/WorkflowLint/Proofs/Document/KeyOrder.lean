import WorkflowLint.Proofs.Report.Sections
import WorkflowLint.Proofs.Report.Summary
import WorkflowLint.Proofs.Rules.KeyOrder

/-!
# The order of keys in a document

JSON gives the order of keys no meaning, and neither does an analysis, with one exception: the
groups of targets are gone through as they stand. `Json.SameButForGroups` says what is left of the
order of keys in the reports on documents that differ in nothing else (`analyze_key_order`).
-/

set_option autoImplicit false

namespace WorkflowLint

namespace Json

/-- The documents are equal up to the order of keys, and fully equal in the lists whose items may be
shown with all that is in them. Of a repeated key the last member counts. -/
structure KeyOrderOnly (v w : Json) : Prop where
  permuted : v.settle.Permuted w.settle
  listed : ∀ key ∈ ["categories", "atomic_workflows"], v.settle.itemsAt key = w.settle.itemsAt key

/-- The reports are the same but for the order of the groups of targets: each report goes through
the groups of its document, and what it finds on a group is the same in both. -/
structure SameButForGroups (v : Json) (config : Config) (w : Json) (r s : Report) : Prop where
  summary : r.summary = s.summary
  inBucket : ∀ b, b ≠ .targets → r.inBucket b = s.inBucket b
  groups : v.groupIds.Perm w.groupIds
  targets : ∃ first, first.code = "TGT001" ∧
    r.inBucket .targets = first :: v.groupIds.flatMap (v.groupFindings config) ∧
    s.inBucket .targets = first :: w.groupIds.flatMap (v.groupFindings config)

/-! ### Settled documents -/

theorem groups_settle (v : Json) : v.settle.groups = v.groups := by
  rw [groups, get?_settle, groups]
  cases v.get? "target_groups" with
  | none => rfl
  | some w => exact congrArg (Option.getD · []) (congrArg some (fields_settle w))

namespace KeyOrderOnly

variable {v w : Json} (h : v.KeyOrderOnly w)

include h

theorem alike : v.settle.Alike w.settle := ⟨settled_settle v, settled_settle w, h.permuted⟩

theorem groups_alike : Members.Alike v.groups w.groups := by
  rw [← groups_settle v, ← groups_settle w]
  exact h.alike.groups

/-- Only the targets can show a difference. -/
theorem bucketFindings_eq (config : Config) (mode : Mode) {b : Bucket} (other : b ≠ .targets) :
    (Document.ofMembers v.fields).bucketFindings config mode b =
      (Document.ofMembers w.fields).bucketFindings config mode b := by
  rw [← fields_settle v, ← fields_settle w]
  exact match b, other with
    | .properties, _ => Rules.properties_congr mode (h.listed _ (by simp))
    | .variables, _ => Rules.declarations_orderBlind config h.alike
    | .triggers, _ => Rules.triggers_orderBlind h.alike
    | .targets, other => absurd rfl other
    | .activities, _ => Rules.activities_orderBlind mode h.alike
    | .atomics, _ => Rules.atomics_congr h.alike (h.listed _ (by simp))
    | .statistics, _ => Rules.statistics_orderBlind h.alike

theorem groupFindings_eq (config : Config) : v.groupFindings config = w.groupFindings config := by
  have same := h.alike.groupFindings_eq config
  unfold groupFindings at same ⊢
  rwa [groups_settle, groups_settle] at same

/-- The targets differ in the order of the groups. -/
theorem targets_eq (config : Config) :
    Rules.targets config (Document.ofMembers w.fields) =
      Rules.embeddedTargets (Document.ofMembers v.fields) ::
        w.groupIds.flatMap (v.groupFindings config) := by
  have embedded := Rules.embeddedTargets_orderBlind h.alike
  dsimp only at embedded
  rw [fields_settle, fields_settle] at embedded
  rw [Rules.targets_fields h.groups_alike.distinct_right, embedded, h.groupFindings_eq]

theorem sameButForGroups (config : Config) (flag : Bool) :
    v.SameButForGroups config w (v.report config flag) (w.report config flag) := by
  have groups := h.groups_alike.perm_keys
  have before := Rules.targets_fields h.groups_alike.distinct config
  have after := h.targets_eq config
  have others (b : Bucket) (other : b ≠ .targets) :
      (v.report config flag).inBucket b = (w.report config flag).inBucket b := by
    unfold Json.report
    rw [Document.inBucket_report, Document.inBucket_report, h.bucketFindings_eq config _ other]
  have counts (s : Severity) (b : Bucket) : s.count ((v.report config flag).inBucket b) =
      s.count ((w.report config flag).inBucket b) := by
    by_cases targets : b = .targets
    · subst targets
      unfold Json.report
      rw [Document.inBucket_report, Document.inBucket_report, Document.bucketFindings,
        Document.bucketFindings, before, after]
      exact ((groups.flatMap_right _).cons _).countP_eq _
    · rw [others b targets]
  refine ⟨Summary.ext_get fun s => ?_, others, groups,
    Rules.embeddedTargets (Document.ofMembers v.fields), ?_, ?_, ?_⟩
  · have counted (u : Json) : (u.report config flag).summary.get s = _ :=
      Report.get_summary_ofPushes _ s
    rw [counted, counted]
    exact congrArg List.sum (List.map_congr_left fun b _ => counts s b)
  · unfold Rules.embeddedTargets
    split <;> rfl
  · unfold Json.report
    rw [Document.inBucket_report, Document.bucketFindings, before]
  · unfold Json.report
    rw [Document.inBucket_report, Document.bucketFindings, after]

/-- With the groups in the same order, nothing shows the order of keys. -/
theorem report_eq (config : Config) (flag : Bool) (groups : v.groupIds = w.groupIds) :
    v.report config flag = w.report config flag := by
  obtain ⟨-, others, -, first, -, before, after⟩ := h.sameButForGroups config flag
  refine Report.ofPushes_eq_of_inBucket fun b => ?_
  by_cases targets : b = .targets
  · rw [← groups] at after
    rw [targets]
    exact before.trans after.symm
  · exact others b targets

theorem mode?_eq :
    (Document.ofMembers v.fields).mode? = (Document.ofMembers w.fields).mode? := by
  rw [← fields_settle v, ← fields_settle w]
  exact h.alike.mode?_eq

end KeyOrderOnly
end Json

/-- **The order of keys does not matter.** Texts of documents that are equal up to the order of keys
have the same outcome. If the target groups stand in the same order, so do the reports say the same;
if not, the findings on whole groups change places behind the first finding on targets, and nothing
else does. -/
theorem analyze_key_order {text text' : String} {v w : Json} (before : Json.ofText text = .ok v)
    (after : Json.ofText text' = .ok w) (h : v.KeyOrderOnly w) (config : Config) :
    (∀ f, analyze text config = .error f ↔ analyze text' config = .error f) ∧
    (v.groupIds = w.groupIds → analyze text config = analyze text' config) ∧
    ∀ r, analyze text config = .ok r →
      ∃ s, analyze text' config = .ok s ∧ v.SameButForGroups config w r s := by
  have object : v.isObject = w.isObject := by
    rw [← Json.isObject_settle v, ← Json.isObject_settle w]
    exact Json.OrderBlind.isObject h.alike
  rw [analyze_of_read before, analyze_of_read after, object]
  unfold Document.report
  rw [h.mode?_eq]
  split
  · cases (Document.ofMembers w.fields).mode? with
    | error gap => exact ⟨fun _ => Iff.rfl, fun _ => rfl, fun _ hr => (nomatch hr)⟩
    | ok mode =>
      obtain ⟨flag, rfl⟩ : ∃ flag, mode = .ofBool flag := ⟨mode.isAtomic, by cases mode <;> rfl⟩
      refine ⟨fun f => ?_, fun groups => congrArg Except.ok (h.report_eq config flag groups), ?_⟩
      · constructor <;> intro hf <;> cases hf
      · rintro _ ⟨⟩
        exact ⟨_, rfl, h.sameButForGroups config flag⟩
  · exact ⟨fun _ => Iff.rfl, fun _ => rfl, fun _ hr => (nomatch hr)⟩

/-- A workflow with two target groups, and objects in many places. -/
def grouped : Json :=
  .obj [
    ("categories", .arr [.str "Misc", .obj [("name", .str "Other")]]),
    ("target_groups", .obj [
      ("first", .obj [("name", .str "First"), ("targets", .arr [.obj [
        ("data_target_type", .str "x"), ("selected_target_ids", .arr [.null])]])]),
      ("second", .obj [("targets", .arr [.obj [
        ("selected_target_ids", .arr [.obj [("a", .null), ("b", .null)]])]])])]),
    ("workflow", .obj [
      ("properties", .obj [("atomic", .obj [("is_atomic", .bool false)])]),
      ("actions", .arr [.obj [("type", .str "t"), ("properties", .obj [
        ("display_name", .str "Go"), ("continue_on_failure", .bool true)])]])])]

/-- The members of all its objects turned round, at every depth. -/
def turnedRound : Json := grouped.rearrange List.reverse

example : grouped.groupIds = ["first", "second"] ∧ turnedRound.groupIds = ["second", "first"] := by
  decide +kernel

theorem keyOrderOnly_turnedRound : grouped.KeyOrderOnly turnedRound where
  permuted := by
    have left : grouped.settle = grouped := rfl
    have right : turnedRound.settle = turnedRound := rfl
    rw [left, right]
    exact Json.permuted_rearrange (fun members => (List.reverse_perm members).symm) grouped
  listed := by
    intro key hk
    simp only [List.mem_cons, List.not_mem_nil, or_false] at hk
    rcases hk with rfl | rfl <;> rfl

theorem analyze_key_order_turnedRound :
    grouped.KeyOrderOnly turnedRound ∧
      ∃ r s, analyze grouped.compact .builtIn = .ok r ∧
        analyze turnedRound.compact .builtIn = .ok s ∧
        grouped.SameButForGroups .builtIn turnedRound r s := by
  have before : Json.ofText grouped.compact = .ok grouped := by
    apply Json.ofText_compact_of_exact
    simp [grouped, Json.nestingLimit]
  have after : Json.ofText turnedRound.compact = .ok turnedRound := by
    apply Json.ofText_compact_of_exact
    simp [turnedRound, grouped, Json.rearrange, Json.rearrangeItems, Json.rearrangeMembers,
      Json.nestingLimit]
  obtain ⟨r, analyzed⟩ : ∃ r, analyze grouped.compact .builtIn = .ok r := by
    rw [analyze_of_read before]
    exact ⟨_, rfl⟩
  obtain ⟨s, analyzed', same⟩ :=
    (analyze_key_order before after keyOrderOnly_turnedRound .builtIn).2.2 r analyzed
  exact ⟨keyOrderOnly_turnedRound, r, s, analyzed, analyzed', same⟩

end WorkflowLint
