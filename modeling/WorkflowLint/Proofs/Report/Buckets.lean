import WorkflowLint.Analysis

/-!
# Buckets of a report

The findings of a bucket are those that were pushed into it, in the order of their pushes
(`inBucket_ofPushes`); what was pushed elsewhere in between does not show. Since every pass of an
analysis has buckets of its own, a bucket holds what one rule module found (`inBucket_findings`).
-/

set_option autoImplicit false

namespace WorkflowLint

namespace Pass

/-- What a pass adds to a bucket. -/
def inBucket (pass : Pass) (bucket : Bucket) : List Finding :=
  pass.filterMap fun p => if p.1 = bucket then some p.2 else none

theorem inBucket_append (a b : Pass) (bucket : Bucket) :
    inBucket (a ++ b) bucket = inBucket a bucket ++ inBucket b bucket :=
  List.filterMap_append

theorem mem_inBucket {pass : Pass} {bucket : Bucket} {f : Finding} :
    f ∈ inBucket pass bucket ↔ (bucket, f) ∈ pass := by
  unfold inBucket
  rw [List.mem_filterMap]
  constructor
  · rintro ⟨⟨b, g⟩, mem, found⟩
    obtain ⟨here, found⟩ := Option.ite_none_right_eq_some.1 found
    have same : (b, g) = (bucket, f) := Prod.ext here (Option.some.inj found)
    rwa [same] at mem
  · intro mem
    exact ⟨(bucket, f), mem, if_pos rfl⟩

theorem inBucket_into (bucket : Bucket) (findings : List Finding) (b : Bucket) :
    inBucket (into bucket findings) b = if bucket = b then findings else [] := by
  unfold inBucket into
  rw [List.filterMap_map]
  split
  · next same =>
    have each : ((fun p : Bucket × Finding => if p.1 = b then some p.2 else none) ∘
        fun f => (bucket, f)) = some := funext fun f => if_pos same
    rw [each, List.filterMap_some]
  · next other => exact List.filterMap_eq_nil_iff.2 fun f _ => if_neg other

end Pass

namespace Findings

/-- Pushes keep the sections in order and show in their own buckets only, the last in front. -/
theorem pushAll_spec (pushes : Pass) (fs : Findings) (h : fs.pushed.Ordered) :
    (fs.pushAll pushes).pushed.Ordered ∧
      ∀ b, (fs.pushAll pushes).pushed.inBucket b =
        (Pass.inBucket pushes b).reverse ++ fs.pushed.inBucket b := by
  induction pushes generalizing fs with
  | nil => exact ⟨h, fun b => rfl⟩
  | cons p rest ih =>
    obtain ⟨ordered, buckets⟩ := ih (fs.push p.1 p.2) (ordered_insert h)
    refine ⟨ordered, fun b => (buckets b).trans ?_⟩
    rw [push, inBucket_insert h]
    by_cases hb : b = p.1
    · simp [Pass.inBucket, hb]
    · simp [Pass.inBucket, hb, Ne.symm hb]

/-- The first that was pushed stands in front in the end. -/
theorem inBucket_sections (fs : Findings) (b : Bucket) :
    fs.sections.inBucket b = (fs.pushed.inBucket b).reverse := by
  unfold sections Sections.inBucket
  rw [lookup_map_snd]
  cases fs.pushed.lookup b <;> rfl

end Findings

/-- A bucket of a report holds what was pushed into it. -/
theorem Report.inBucket_ofPushes (pushes : Pass) (b : Bucket) :
    (Report.ofPushes pushes).inBucket b = Pass.inBucket pushes b := by
  have spec := (Findings.pushAll_spec pushes Findings.empty List.Pairwise.nil).2 b
  have reversed : (Report.ofPushes pushes).inBucket b = _ :=
    (Findings.empty.pushAll pushes).inBucket_sections b
  rw [reversed, spec, List.reverse_append, List.reverse_reverse]
  rfl

namespace Document

/-- What the rules of a bucket find in a document. -/
def bucketFindings (d : Document) (config : Config) (mode : Mode) : Bucket → List Finding
  | .properties => Rules.properties mode d
  | .variables => Rules.declarations config d
  | .triggers => Rules.triggers d
  | .targets => Rules.targets config d
  | .activities => Rules.activities mode d
  | .atomics => Rules.atomics d
  | .statistics => Rules.statistics d

/-- Each bucket belongs to one rule module. -/
theorem inBucket_findings (d : Document) (config : Config) (mode : Mode) (b : Bucket) :
    Pass.inBucket (d.findings config mode) b = d.bucketFindings config mode b := by
  simp only [findings, Pass.inBucket_append, Pass.properties, Pass.declarations, Pass.targets,
    Pass.triggers, Pass.actions, Pass.inBucket_into]
  cases b <;> simp [bucketFindings]

theorem inBucket_report (d : Document) (config : Config) (mode : Mode) (b : Bucket) :
    (Report.ofPushes (d.findings config mode)).inBucket b = d.bucketFindings config mode b := by
  rw [Report.inBucket_ofPushes, inBucket_findings]

end Document

end WorkflowLint
