import WorkflowLint.Proofs.Document.Nodes
import WorkflowLint.Proofs.Report.Summary
import WorkflowLint.Proofs.Walk

/-!
# Rules and the order of a document

A document may be arranged in another way and hold the same (`Document.Rearranged`). The rules then
find the same on its variables, its targets and its activities, though in another order; elsewhere a
text may list the contents, or show whichever caller came first, but the `label` of a finding does
not depend on that, and labels are all that is counted.
-/

set_option autoImplicit false

namespace WorkflowLint

/-- What is counted of a finding. -/
def Finding.label (f : Finding) : String × Severity := (f.code, f.severity)

/-- The groups have the same identifier and name, and the same targets in whatever order. -/
structure TargetGroup.Rearranged (g h : String × TargetGroup) : Prop where
  id : g.1 = h.1
  name : g.2.name = h.2.name
  targets : g.2.targets.Perm h.2.targets

/-- The documents hold the same, in whatever order. -/
structure Document.Rearranged (d d' : Document) : Prop where
  mode : d.mode? = d'.mode?
  globals : (d.workflow.present?.map WorkflowBody.declarations).any Field.isNull =
    (d'.workflow.present?.map WorkflowBody.declarations).any Field.isNull
  declared : Option.Rel List.Perm
    ((d.workflow.present?.map WorkflowBody.declarations).bind Field.present?)
    ((d'.workflow.present?.map WorkflowBody.declarations).bind Field.present?)
  embedded : d.targets.isSet = d'.targets.isSet
  groups : ∃ groups, (d.targetGroups.present?.getD []).Perm groups ∧
    List.Forall₂ TargetGroup.Rearranged groups (d'.targetGroups.present?.getD [])
  activities : d.activities.Perm d'.activities
  references : d.atomicReferences.Perm d'.atomicReferences

/-- The reports count the same, and have the same findings on what is judged by itself. -/
structure Report.SameTallies (r s : Report) : Prop where
  summary : r.summary = s.summary
  labels : ∀ b, ((r.inBucket b).map Finding.label).Perm ((s.inBucket b).map Finding.label)
  findings : ∀ b ∈ [Bucket.variables, .targets, .activities], (r.inBucket b).Perm (s.inBucket b)

namespace Rules

variable {d d' : Document}

theorem declarations_perm (h : d.Rearranged d') (config : Config) :
    (declarations config d).Perm (declarations config d') := by
  have globals : globalVariables (d.workflow.present?.map WorkflowBody.declarations) =
      globalVariables (d'.workflow.present?.map WorkflowBody.declarations) := by
    unfold globalVariables
    rw [h.globals]
  have declared := h.declared
  unfold declarations
  dsimp only
  rw [globals]
  refine List.Perm.append_right _ ?_
  generalize (d.workflow.present?.map _).bind _ = vs at declared ⊢
  generalize (d'.workflow.present?.map _).bind _ = vs' at declared ⊢
  cases declared with
  | none => exact List.Perm.refl _
  | some permuted => exact permuted.flatMap_right _

/-- A group is judged target by target, and seen by its identifier and name only. -/
theorem targetGroup_perm (config : Config) {g h : String × TargetGroup}
    (same : TargetGroup.Rearranged g h) : (targetGroup config g).Perm (targetGroup config h) := by
  have each : groupTarget config g.1 g.2 = groupTarget config h.1 h.2 := by
    funext target
    unfold groupTarget groupTitle
    rw [same.id, same.name]
  unfold targetGroup
  rw [each]
  exact same.targets.flatMap_right _

theorem targetGroups_perm (config : Config) {groups groups' : List (String × TargetGroup)}
    (same : List.Forall₂ TargetGroup.Rearranged groups groups') :
    (groups.flatMap (targetGroup config)).Perm (groups'.flatMap (targetGroup config)) := by
  induction same with
  | nil => exact List.Perm.refl _
  | cons first _ ih => exact (targetGroup_perm config first).append ih

theorem targets_perm (h : d.Rearranged d') (config : Config) :
    (targets config d).Perm (targets config d') := by
  have embedded : embeddedTargets d = embeddedTargets d' := by
    unfold embeddedTargets
    rw [h.embedded]
  obtain ⟨groups, permuted, alike⟩ := h.groups
  unfold targets
  rw [embedded]
  exact List.Perm.cons _ ((permuted.flatMap_right _).trans (targetGroups_perm config alike))

/-- The forest of a document is empty if no activity is in it. -/
theorem isEmpty_forest (d : Document) : d.forest.isEmpty = d.activities.isEmpty := by
  rw [Bool.eq_iff_iff, List.isEmpty_iff, List.isEmpty_iff]
  exact (Action.preorderAll_eq_nil_iff d.forest).symm

theorem activities_perm (h : d.Rearranged d') (mode : Mode) :
    (activities mode d).Perm (activities mode d') := by
  unfold activities
  rw [isEmpty_forest, isEmpty_forest, h.activities.isEmpty_eq, (Document.records_walk d).found,
    (Document.records_walk d').found, List.reverse_reverse, List.reverse_reverse]
  refine List.Perm.cons _ ?_
  split
  · exact List.Perm.refl _
  · exact h.activities.flatMap_right _

/-- Who calls a workflow first shows in the text of a finding, but not in its label. -/
theorem label_atomic (h : d.Rearranged d') (reference : String) :
    (atomic d.walk.calls reference).label = (atomic d'.walk.calls reference).label := by
  have called (d : Document) : (d.walk.calls.lookup reference).isSome =
      d.activities.any (Activity.calls reference) := by
    rw [(Document.records_walk d).calls, Option.isSome_map, List.isSome_find?]
  have label (d : Document) : (atomic d.walk.calls reference).label =
      if (d.walk.calls.lookup reference).isSome then ("ATM001", .info) else ("ATM002", .error) := by
    unfold atomic
    cases d.walk.calls.lookup reference <;> rfl
  rw [label, label, called, called, h.activities.any_eq]

theorem labels_atomics_perm (h : d.Rearranged d') :
    ((atomics d).map Finding.label).Perm ((atomics d').map Finding.label) := by
  unfold atomics
  dsimp only
  rw [h.references.isEmpty_eq]
  split
  · exact List.Perm.refl _
  · have labels : Finding.label ∘ atomic d.walk.calls = Finding.label ∘ atomic d'.walk.calls :=
      funext (label_atomic h)
    rw [List.map_map, List.map_map, labels]
    exact h.references.map _

end Rules

namespace Document

variable {d d' : Document} (h : d.Rearranged d')

include h

theorem labels_bucketFindings_perm (config : Config) (mode : Mode) (b : Bucket) :
    ((d.bucketFindings config mode b).map Finding.label).Perm
      ((d'.bucketFindings config mode b).map Finding.label) :=
  match b with
  | .properties => List.Perm.refl _
  | .variables => (Rules.declarations_perm h config).map _
  | .triggers => List.Perm.refl _
  | .targets => (Rules.targets_perm h config).map _
  | .activities => (Rules.activities_perm h mode).map _
  | .atomics => Rules.labels_atomics_perm h
  | .statistics => List.Perm.refl _

/-- The labels of the findings decide about the summary. -/
theorem sameTallies_findings (config : Config) (mode : Mode) :
    (Report.ofPushes (d.findings config mode)).SameTallies
      (Report.ofPushes (d'.findings config mode)) := by
  have labels := labels_bucketFindings_perm h config mode
  have count (s : Severity) (fs : List Finding) :
      s.count fs = (fs.map Finding.label).countP fun l => l.2 == s := by
    rw [List.countP_map]
    rfl
  have counts (s : Severity) (b : Bucket) : s.count (d.bucketFindings config mode b) =
      s.count (d'.bucketFindings config mode b) := by
    rw [count, count, (labels b).countP_eq]
  constructor
  · refine Summary.ext_get fun s => ?_
    simp only [Report.get_summary_ofPushes, inBucket_report, counts]
  · intro b
    rw [inBucket_report, inBucket_report]
    exact labels b
  · intro b hb
    rw [inBucket_report, inBucket_report]
    simp only [List.mem_cons, List.not_mem_nil, or_false] at hb
    rcases hb with rfl | rfl | rfl
    · exact Rules.declarations_perm h config
    · exact Rules.targets_perm h config
    · exact Rules.activities_perm h mode

/-- Rearranged documents both fail to state a mode, or their reports count the same. -/
theorem report_rearranged (config : Config) :
    (∀ f, d.report config = .error f ↔ d'.report config = .error f) ∧
      ∀ r, d.report config = .ok r → ∃ s, d'.report config = .ok s ∧ r.SameTallies s := by
  unfold report
  rw [h.mode]
  cases d'.mode? with
  | error gap => exact ⟨fun _ => Iff.rfl, fun _ hr => nomatch hr⟩
  | ok mode =>
    constructor
    · intro f
      constructor <;> intro hf <;> cases hf
    · intro r hr
      cases hr
      exact ⟨_, rfl, sameTallies_findings h config mode⟩

end Document

end WorkflowLint
