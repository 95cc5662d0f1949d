import Mathlib.Algebra.Ring.Nat
import Mathlib.Data.List.Perm.Basic
import WorkflowLint.Proofs.Report.Buckets

/-!
# The summary of a report

A report arranges the findings that were pushed and neither loses nor repeats one
(`toList_ofPushes_perm`), so its summary counts what stands in its buckets (`get_summary_ofPushes`).
-/

set_option autoImplicit false

namespace WorkflowLint

/-- How many of the findings have the severity. -/
def Severity.count (s : Severity) (findings : List Finding) : Nat :=
  findings.countP fun f => f.severity == s

theorem Severity.count_cons (s : Severity) (f : Finding) (fs : List Finding) :
    s.count (f :: fs) = s.count fs + if f.severity == s then 1 else 0 :=
  List.countP_cons

namespace Findings

theorem toList_insert_perm (bucket : Bucket) (finding : Finding) (sections : Sections) :
    (Sections.toList (insert bucket finding sections)).Perm
      ((bucket, finding) :: sections.toList) := by
  induction sections with
  | nil => exact List.Perm.refl _
  | cons s rest ih =>
    obtain ⟨b, fs⟩ := s
    rw [insert]
    split
    · next same =>
      subst same
      exact List.Perm.refl _
    · split
      · exact List.Perm.refl _
      · exact (ih.append_left _).trans List.perm_middle

theorem toList_pushAll_perm (pushes : Pass) (fs : Findings) :
    (fs.pushAll pushes).pushed.toList.Perm (pushes ++ fs.pushed.toList) := by
  induction pushes generalizing fs with
  | nil => exact List.Perm.refl _
  | cons p rest ih =>
    have first := toList_insert_perm p.1 p.2 fs.pushed
    exact (ih (fs.push p.1 p.2)).trans ((first.append_left rest).trans List.perm_middle)

/-- Turning every section round moves findings within their sections only. -/
theorem toList_sections_perm (fs : Findings) : fs.sections.toList.Perm fs.pushed.toList := by
  unfold sections Sections.toList
  rw [List.flatMap_map]
  exact List.Perm.flatMap_left _ fun s _ => (List.reverse_perm s.2).map _

end Findings

/-- A report holds the findings that were pushed, each as often as it was pushed. -/
theorem Report.toList_ofPushes_perm (pushes : Pass) : (ofPushes pushes).toList.Perm pushes := by
  have pushed := Findings.toList_pushAll_perm pushes Findings.empty
  rw [show Findings.empty.pushed.toList = [] from rfl, List.append_nil] at pushed
  exact (Findings.toList_sections_perm _).trans pushed

namespace Summary

theorem get_count (summary : Summary) (severity s : Severity) :
    (summary.count severity).get s = summary.get s + if severity == s then 1 else 0 := by
  cases severity <;> cases s <;> rfl

theorem get_tally (sections : Sections) (s : Severity) :
    (tally sections).get s = s.count (sections.toList.map Prod.snd) := by
  have counted (list : List (Bucket × Finding)) (summary : Summary) :
      (list.foldl (fun acc p => acc.count p.2.severity) summary).get s =
        summary.get s + s.count (list.map Prod.snd) := by
    induction list generalizing summary with
    | nil => rfl
    | cons p rest ih =>
      rw [List.foldl_cons, ih, get_count, List.map_cons, Severity.count_cons]
      omega
  have start : zero.get s = 0 := by cases s <;> rfl
  rw [tally, counted, start, Nat.zero_add]

theorem ext_get {a b : Summary} (h : ∀ s, a.get s = b.get s) : a = b := by
  obtain ⟨success, info, warning, error⟩ := a
  rw [mk.injEq]
  exact ⟨h .success, h .info, h .warning, h .error⟩

end Summary

/-- Each finding is in one bucket. -/
theorem Pass.sum_count_inBucket (pushes : Pass) (s : Severity) :
    (Bucket.all.map fun b => s.count (inBucket pushes b)).sum = s.count (pushes.map Prod.snd) := by
  induction pushes with
  | nil => rfl
  | cons p rest ih =>
    obtain ⟨bucket, f⟩ := p
    rw [List.map_cons, Severity.count_cons, ← ih]
    cases bucket <;> simp [Bucket.all, inBucket, Severity.count_cons] <;> omega

/-- The summary of a report counts the findings that were pushed. -/
theorem Report.get_summary_eq_count (pushes : Pass) (s : Severity) :
    (ofPushes pushes).summary.get s = s.count (pushes.map Prod.snd) := by
  have arranged := (toList_ofPushes_perm pushes).map Prod.snd
  exact (Summary.get_tally _ s).trans (arranged.countP_eq _)

/-- The summary of a report counts the findings of its buckets. -/
theorem Report.get_summary_ofPushes (pushes : Pass) (s : Severity) :
    (ofPushes pushes).summary.get s =
      (Bucket.all.map fun b => s.count ((ofPushes pushes).inBucket b)).sum := by
  simp only [get_summary_eq_count, inBucket_ofPushes, Pass.sum_count_inBucket]

end WorkflowLint
