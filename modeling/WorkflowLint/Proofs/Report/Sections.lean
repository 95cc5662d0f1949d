import Mathlib.Data.List.Sort
import WorkflowLint.Proofs.Report.Buckets
import WorkflowLint.Report.Text

/-!
# Sections of a report

A report has one section for each bucket into which something was pushed, in the order of
presentation, and no other section. So the buckets say all there is to say about a report
(`sections_ofPushes`, `ofPushes_eq_of_inBucket`).
-/

set_option autoImplicit false

namespace WorkflowLint

namespace Sections

variable {sections : Sections}

/-- Every section has a finding. -/
def Filled (sections : Sections) : Prop := ∀ s ∈ sections, s.2 ≠ []

/-- In ordered sections a bucket's section is the one that a look-up finds. -/
theorem Ordered.lookup_eq (h : sections.Ordered) {s : Bucket × List Finding} (hs : s ∈ sections) :
    sections.lookup s.1 = some s.2 := by
  induction sections with
  | nil => cases hs
  | cons t rest ih =>
    obtain ⟨below, ordered⟩ := List.pairwise_cons.1 h
    rw [lookup_cons_ite]
    rcases List.mem_cons.1 hs with rfl | hs
    · exact if_pos rfl
    · have later := below s hs
      have other : ¬s.1 = t.1 := by
        intro e
        rw [e] at later
        exact Nat.lt_irrefl _ later
      rw [if_neg other]
      exact ih ordered hs

theorem mem_iff_inBucket (ordered : sections.Ordered) (filled : sections.Filled)
    {s : Bucket × List Finding} : s ∈ sections ↔ s.2 ≠ [] ∧ sections.inBucket s.1 = s.2 := by
  constructor
  · intro hs
    refine ⟨filled s hs, ?_⟩
    rw [inBucket, ordered.lookup_eq hs]
    rfl
  · rintro ⟨nonempty, found⟩
    unfold inBucket at found
    cases hl : sections.lookup s.1 with
    | none =>
      rw [hl] at found
      exact absurd found.symm nonempty
    | some fs =>
      rw [hl] at found
      obtain ⟨before, behind, rfl, -⟩ := List.lookup_eq_some_iff.1 hl
      have same : (s.1, fs) = s := Prod.ext rfl found
      rw [same]
      exact List.mem_append_right _ List.mem_cons_self

/-- The sections of the buckets that are not empty. -/
def ofBuckets (findings : Bucket → List Finding) : Sections :=
  (Bucket.all.filter fun b => !(findings b).isEmpty).map fun b => (b, findings b)

theorem mem_ofBuckets_iff {findings : Bucket → List Finding} {s : Bucket × List Finding} :
    s ∈ ofBuckets findings ↔ s.2 ≠ [] ∧ findings s.1 = s.2 := by
  have all (b : Bucket) : b ∈ Bucket.all := by cases b <;> decide
  unfold ofBuckets
  constructor
  · intro hs
    obtain ⟨b, hb, rfl⟩ := List.mem_map.1 hs
    obtain ⟨-, nonempty⟩ := List.mem_filter.1 hb
    exact ⟨by simpa using nonempty, rfl⟩
  · rintro ⟨nonempty, found⟩
    refine List.mem_map.2 ⟨s.1, List.mem_filter.2 ⟨all s.1, ?_⟩, Prod.ext rfl found⟩
    rw [found]
    simpa using nonempty

theorem ordered_ofBuckets (findings : Bucket → List Finding) : (ofBuckets findings).Ordered := by
  have ranks : Bucket.all.Pairwise fun a b => a.rank < b.rank := by decide
  exact List.pairwise_map.2 (ranks.filter _)

/-- Ordered sections with findings are known from their buckets. -/
theorem eq_ofBuckets (ordered : sections.Ordered) (filled : sections.Filled) :
    sections = ofBuckets sections.inBucket := by
  have : Std.Irrefl fun a b : Bucket × List Finding => a.1.rank < b.1.rank :=
    ⟨fun a => Nat.lt_irrefl a.1.rank⟩
  have : Std.Asymm fun a b : Bucket × List Finding => a.1.rank < b.1.rank :=
    ⟨fun _ _ h => Nat.lt_asymm h⟩
  refine List.Pairwise.eq_of_mem_iff ordered (ordered_ofBuckets _) fun s => ?_
  rw [mem_iff_inBucket ordered filled, mem_ofBuckets_iff]

end Sections

namespace Findings

theorem filled_insert {bucket : Bucket} {finding : Finding} {sections : Sections}
    (h : sections.Filled) : Sections.Filled (insert bucket finding sections) := by
  induction sections with
  | nil => simp [insert, Sections.Filled]
  | cons t rest ih =>
    obtain ⟨here, below⟩ := List.forall_mem_cons.1 h
    rw [insert]
    split
    · exact List.forall_mem_cons.2 ⟨List.cons_ne_nil _ _, below⟩
    · split
      · exact List.forall_mem_cons.2 ⟨List.cons_ne_nil _ _, h⟩
      · exact List.forall_mem_cons.2 ⟨here, ih below⟩

theorem filled_pushAll (pushes : Pass) (fs : Findings) (h : fs.pushed.Filled) :
    (fs.pushAll pushes).pushed.Filled := by
  induction pushes generalizing fs with
  | nil => exact h
  | cons p rest ih => exact ih (fs.push p.1 p.2) (filled_insert h)

theorem ordered_sections {fs : Findings} (h : fs.pushed.Ordered) : fs.sections.Ordered :=
  List.pairwise_map.2 h

theorem filled_sections {fs : Findings} (h : fs.pushed.Filled) : fs.sections.Filled := by
  intro s hs
  obtain ⟨t, ht, rfl⟩ := List.mem_map.1 hs
  rw [ne_eq, List.reverse_eq_nil_iff]
  exact h t ht

end Findings

namespace Report

theorem ordered_ofPushes (pushes : Pass) : (ofPushes pushes).sections.Ordered :=
  Findings.ordered_sections (Findings.pushAll_spec pushes Findings.empty List.Pairwise.nil).1

theorem filled_ofPushes (pushes : Pass) : (ofPushes pushes).sections.Filled :=
  Findings.filled_sections (Findings.filled_pushAll pushes _ fun _ h => absurd h List.not_mem_nil)

/-- The sections of a report are its buckets, those without findings left out. -/
theorem sections_ofPushes (pushes : Pass) :
    (ofPushes pushes).sections = Sections.ofBuckets (ofPushes pushes).inBucket :=
  Sections.eq_ofBuckets (ordered_ofPushes pushes) (filled_ofPushes pushes)

theorem map_nonEmptyBuckets (r : Report) :
    r.nonEmptyBuckets.map (fun b => (b, r.inBucket b)) = Sections.ofBuckets r.inBucket :=
  rfl

/-- A report counts what is in its sections and nothing else. -/
theorem ofPushes_eq_of_sections {pushes pushes' : Pass}
    (h : (ofPushes pushes).sections = (ofPushes pushes').sections) :
    ofPushes pushes = ofPushes pushes' := by
  have counted (p : Pass) : ofPushes p = ⟨(ofPushes p).sections, Summary.tally (ofPushes p).sections⟩ :=
    rfl
  rw [counted, h, ← counted]

/-- Reports with the same findings in every bucket are the same. -/
theorem ofPushes_eq_of_inBucket {pushes pushes' : Pass}
    (h : ∀ b, (ofPushes pushes).inBucket b = (ofPushes pushes').inBucket b) :
    ofPushes pushes = ofPushes pushes' := by
  apply ofPushes_eq_of_sections
  rw [sections_ofPushes, sections_ofPushes, funext h]

end Report

end WorkflowLint
