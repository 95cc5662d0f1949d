import WorkflowLint.Proofs.Report.Buckets

/-!
# What a bucket looks at

The findings of a bucket depend on a document only through the few fields that its rules look at
(`bucketFindings_congr`), and these are looked at for what they hold: a field with a value of the
wrong shape is as good as a missing one. Three places tell more apart: `targets` and the declarations
of variables, where `null` has a meaning of its own, and the user of an activity.
-/

set_option autoImplicit false

namespace WorkflowLint

namespace Document

/-- The documents do not differ in what the rules of the bucket look at. -/
def AgreeOn (d d' : Document) : Bucket → Prop
  | .properties => d.categories.present? = d'.categories.present?
  | .variables =>
    d.workflow.present?.map WorkflowBody.declarations =
      d'.workflow.present?.map WorkflowBody.declarations
  | .triggers => d.triggers.present? = d'.triggers.present?
  | .targets =>
    d.targets.isSet = d'.targets.isSet ∧ d.targetGroups.present? = d'.targetGroups.present?
  | .activities => d.forest = d'.forest
  | .atomics =>
    d.forest = d'.forest ∧ d.atomicWorkflows.present? = d'.atomicWorkflows.present?
  | .statistics => d.forest = d'.forest

variable {d d' : Document}

theorem walk_congr (h : d.forest = d'.forest) : d.walk = d'.walk := by
  rw [walk, h, walk]

theorem bucketFindings_congr {b : Bucket} (h : d.AgreeOn d' b) (config : Config) (mode : Mode) :
    d.bucketFindings config mode b = d'.bucketFindings config mode b :=
  match b with
  | .properties => by
    have names : d.categories.present? = d'.categories.present? := h
    simp only [bucketFindings, Rules.properties, Rules.categories, Rules.categoryNames, names]
  | .variables => by
    have declared : d.workflow.present?.map WorkflowBody.declarations = _ := h
    simp only [bucketFindings, Rules.declarations, declared]
  | .triggers => by
    have triggers : d.triggers.present? = d'.triggers.present? := h
    simp only [bucketFindings, Rules.triggers, triggers]
  | .targets => by
    obtain ⟨embedded, groups⟩ := h
    simp only [bucketFindings, Rules.targets, Rules.embeddedTargets, embedded, groups]
  | .activities => by
    have forest : d.forest = d'.forest := h
    simp only [bucketFindings, Rules.activities, walk_congr forest, forest]
  | .atomics => by
    obtain ⟨forest, listed⟩ := h
    have references : d.atomicReferences = d'.atomicReferences := by
      rw [atomicReferences, listed, atomicReferences]
    simp only [bucketFindings, Rules.atomics, walk_congr forest, references]
  | .statistics => by
    have forest : d.forest = d'.forest := h
    simp only [bucketFindings, Rules.statistics, walk_congr forest]

/-- The findings on documents are the same if they are in each bucket. -/
theorem findings_eq_of_bucketFindings {config : Config} {mode : Mode}
    (same : ∀ b, d.bucketFindings config mode b = d'.bucketFindings config mode b) :
    d.findings config mode = d'.findings config mode := by
  have properties : Rules.properties mode d = _ := same .properties
  have declared : Rules.declarations config d = _ := same .variables
  have triggers : Rules.triggers d = _ := same .triggers
  have targets : Rules.targets config d = _ := same .targets
  have activities : Rules.activities mode d = _ := same .activities
  have atomics : Rules.atomics d = _ := same .atomics
  have statistics : Rules.statistics d = _ := same .statistics
  simp only [findings, Pass.properties, Pass.declarations, Pass.targets, Pass.triggers,
    Pass.actions, properties, declared, triggers, targets, activities, atomics, statistics,
    bucketFindings]

theorem findings_congr (h : ∀ b, d.AgreeOn d' b) (config : Config) (mode : Mode) :
    d.findings config mode = d'.findings config mode :=
  findings_eq_of_bucketFindings fun b => bucketFindings_congr (h b) config mode

/-- The mode of a document is a matter of the properties of its workflow. -/
theorem mode?_congr (h : d.workflow.present?.map WorkflowBody.properties =
    d'.workflow.present?.map WorkflowBody.properties) : d.mode? = d'.mode? := by
  cases hd : d.workflow.present? <;> cases hd' : d'.workflow.present? <;> rw [hd, hd'] at h
  · simp only [mode?, hd, hd']
  · cases h
  · cases h
  · simp only [mode?, hd, hd', (Option.some.inj h : _ = _)]

/-- Documents that state the same mode and agree on every bucket get the same report. -/
theorem report_congr (mode : d.mode? = d'.mode?) (h : ∀ b, d.AgreeOn d' b) (config : Config) :
    d.report config = d'.report config := by
  simp only [report, mode, findings_congr h]

end Document

end WorkflowLint
