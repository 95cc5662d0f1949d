import WorkflowLint.Proofs.Report.Sections
import WorkflowLint.Proofs.Report.Summary

/-!
# What a report says of its pushes

A report sorts the findings that were pushed into their buckets and counts them; it keeps no other
record of the pushes (`report_of_pushes`). The sections stand in the order in which the forms with
markup and text go through the buckets, so every form of a report has the same findings in the same
order.
-/

set_option autoImplicit false

namespace WorkflowLint

namespace Sections

/-- The findings of ordered sections, bucket by bucket: a bucket without a section has none. -/
theorem toList_ofBuckets (findings : Bucket → List Finding) :
    (ofBuckets findings).toList = Bucket.all.flatMap fun b => (findings b).map fun f => (b, f) := by
  have dropped (bs : List Bucket) :
      (bs.filter fun b => !(findings b).isEmpty).flatMap (fun b => (findings b).map fun f => (b, f)) =
        bs.flatMap fun b => (findings b).map fun f => (b, f) := by
    induction bs with
    | nil => rfl
    | cons b rest ih =>
      rw [List.filter_cons]
      split
      · rw [List.flatMap_cons, List.flatMap_cons, ih]
      · next empty =>
        have none : findings b = [] := by simpa using empty
        rw [List.flatMap_cons, none, ih]
        rfl
  rw [toList, ofBuckets, List.flatMap_map, dropped]

end Sections

theorem Pass.inBucket_eq (pushes : Pass) (b : Bucket) :
    inBucket pushes b = (pushes.filter fun p => p.1 = b).map Prod.snd := by
  rw [inBucket, ← List.filterMap_eq_map, List.filterMap_filter]
  simp only [decide_eq_true_eq, Function.comp_apply]

/-- Every finding has one of the four severities. -/
theorem Summary.total_eq_length {summary : Summary} {findings : List Finding}
    (h : ∀ s, summary.get s = s.count findings) : summary.total = findings.length := by
  have all : Severity.success.count findings + Severity.info.count findings +
      Severity.warning.count findings + Severity.error.count findings = findings.length := by
    clear h
    induction findings with
    | nil => rfl
    | cons f rest ih =>
      simp only [Severity.count_cons, List.length_cons]
      cases f.severity <;> simp <;> omega
  rw [← all, ← h, ← h, ← h, ← h]
  rfl

namespace Report

theorem hasErrors_iff_mem (pushes : Pass) :
    (ofPushes pushes).hasErrors = true ↔ ∃ p ∈ pushes, p.2.severity = .error := by
  have counted : (ofPushes pushes).summary.error = _ := get_summary_eq_count pushes .error
  rw [hasErrors, decide_eq_true_iff, counted, Severity.count, List.countP_map, List.countP_pos_iff]
  simp

/-- **What a report says of its pushes.** Each bucket has the findings that were pushed into it, in the
order of their pushes; there is a section for each bucket that has any, in the order in which the
other forms go through the buckets; and the pushes are counted by their severity. Pushes that put the
same findings in the same order into every bucket make the same report. -/
theorem report_of_pushes (pushes : Pass) :
    (∀ b, (ofPushes pushes).inBucket b = (pushes.filter fun p => p.1 = b).map Prod.snd) ∧
    (∀ s ∈ (ofPushes pushes).sections, s.2 ≠ []) ∧
    (ofPushes pushes).sections =
      (ofPushes pushes).nonEmptyBuckets.map (fun b => (b, (ofPushes pushes).inBucket b)) ∧
    (ofPushes pushes).toList =
      Bucket.all.flatMap (fun b => ((ofPushes pushes).inBucket b).map fun f => (b, f)) ∧
    (∀ s, (ofPushes pushes).summary.get s = pushes.countP fun p => p.2.severity = s) ∧
    (ofPushes pushes).summary.total = pushes.length ∧
    ((ofPushes pushes).hasErrors = true ↔ ∃ p ∈ pushes, p.2.severity = .error) ∧
    ∀ pushes' : Pass, (∀ b, pushes.filter (fun p => p.1 = b) = pushes'.filter fun p => p.1 = b) →
      ofPushes pushes = ofPushes pushes' := by
  have buckets (pushes : Pass) (b : Bucket) :
      (ofPushes pushes).inBucket b = (pushes.filter fun p => p.1 = b).map Prod.snd := by
    rw [inBucket_ofPushes, Pass.inBucket_eq]
  refine ⟨buckets pushes, filled_ofPushes pushes, ?_, ?_, fun s => ?_, ?_, hasErrors_iff_mem pushes,
    fun pushes' same => ?_⟩
  · rw [sections_ofPushes, map_nonEmptyBuckets]
  · rw [toList, sections_ofPushes, Sections.toList_ofBuckets]
  · rw [get_summary_eq_count, Severity.count, List.countP_map]
    rfl
  · rw [Summary.total_eq_length (get_summary_eq_count pushes), List.length_map]
  · refine ofPushes_eq_of_inBucket fun b => ?_
    rw [buckets, buckets, same]

end Report

end WorkflowLint
