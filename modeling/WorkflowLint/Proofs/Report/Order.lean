import Mathlib.Data.List.Perm.Basic
import WorkflowLint.Proofs.Report.Buckets

/-!
# The order of passes

Pushes into different buckets may change places (`insert_comm`), so passes without a common bucket
may (`pushAll_comm`). The stages of an analysis behind that over the properties are such passes,
each with buckets of its own (`Stage.buckets`): in whatever order they run, and whatever was found
before them, the report is the same (`stages_in_any_order`).
-/

set_option autoImplicit false

namespace WorkflowLint

namespace Findings

/-- Where a finding is put does not depend on what is put into another section. -/
theorem insert_comm {b c : Bucket} (h : b ≠ c) (f g : Finding) (sections : Sections) :
    insert b f (insert c g sections) = insert c g (insert b f sections) := by
  have ranks : b.rank ≠ c.rank := fun same => h (Bucket.rank_injective same)
  induction sections with
  | nil =>
    rcases Nat.lt_or_gt_of_ne ranks with lt | lt
    · simp [insert, h, h.symm, lt, Nat.lt_asymm lt]
    · simp [insert, h, h.symm, lt, Nat.lt_asymm lt]
  | cons s rest ih =>
    obtain ⟨d, fs⟩ := s
    by_cases hb : d = b
    · subst hb
      by_cases before : c.rank < d.rank
      · simp [insert, h, h.symm, before, Nat.lt_asymm before]
      · simp [insert, h, before]
    · by_cases hc : d = c
      · subst hc
        by_cases before : b.rank < d.rank
        · simp [insert, h, h.symm, before, Nat.lt_asymm before]
        · simp [insert, h.symm, before]
      · -- neither bucket is `d`: both go in front of it, both behind it, or one on each side
        grind [insert]

theorem push_comm {b c : Bucket} (h : b ≠ c) (f g : Finding) (fs : Findings) :
    (fs.push b f).push c g = (fs.push c g).push b f :=
  congrArg Findings.mk (insert_comm h.symm g f fs.pushed)

theorem pushAll_push {q : Pass} {b : Bucket} (h : ∀ y ∈ q, b ≠ y.1) (f : Finding) (fs : Findings) :
    (fs.push b f).pushAll q = (fs.pushAll q).push b f := by
  induction q generalizing fs with
  | nil => rfl
  | cons y rest ih =>
    obtain ⟨here, others⟩ := List.forall_mem_cons.1 h
    show ((fs.push b f).push y.1 y.2).pushAll rest = ((fs.push y.1 y.2).pushAll rest).push b f
    rw [push_comm here, ih others]

/-- Passes without a common bucket may change places. -/
theorem pushAll_comm {p q : Pass} (h : ∀ x ∈ p, ∀ y ∈ q, x.1 ≠ y.1) (fs : Findings) :
    (fs.pushAll p).pushAll q = (fs.pushAll q).pushAll p := by
  induction p generalizing fs with
  | nil => rfl
  | cons x rest ih =>
    obtain ⟨here, others⟩ := List.forall_mem_cons.1 h
    show ((fs.push x.1 x.2).pushAll rest).pushAll q = ((fs.pushAll q).push x.1 x.2).pushAll rest
    rw [ih others, pushAll_push here]

theorem lookup_insert_of_ne {b bucket : Bucket} (h : b ≠ bucket) (finding : Finding)
    (sections : Sections) : (insert bucket finding sections).lookup b = sections.lookup b := by
  induction sections with
  | nil => rw [insert, lookup_cons_ite, if_neg h]
  | cons s rest ih =>
    obtain ⟨d, fs⟩ := s
    rw [insert]
    split
    · next same =>
      have other : b ≠ d := fun e => h (e.trans same)
      rw [lookup_cons_ite, lookup_cons_ite, if_neg other, if_neg other]
    · split
      · rw [lookup_cons_ite, if_neg h]
      · rw [lookup_cons_ite, lookup_cons_ite, ih]

/-- A pass leaves a bucket that it does not write into as it was, be it there or not. -/
theorem lookup_sections_pushAll {p : Pass} {b : Bucket} (h : ∀ x ∈ p, b ≠ x.1) (fs : Findings) :
    (fs.pushAll p).sections.lookup b = fs.sections.lookup b := by
  have pushed (fs : Findings) : (fs.pushAll p).pushed.lookup b = fs.pushed.lookup b := by
    induction p generalizing fs with
    | nil => rfl
    | cons x rest ih =>
      obtain ⟨here, others⟩ := List.forall_mem_cons.1 h
      exact (ih others (fs.push x.1 x.2)).trans (lookup_insert_of_ne here x.2 fs.pushed)
  rw [sections, sections, lookup_map_snd, lookup_map_snd, pushed]

/-- A pass adds to a bucket at the end. -/
theorem inBucket_sections_pushAll (p : Pass) {fs : Findings} (h : fs.pushed.Ordered) (b : Bucket) :
    (fs.pushAll p).sections.inBucket b = fs.sections.inBucket b ++ Pass.inBucket p b := by
  rw [inBucket_sections, (pushAll_spec p fs h).2, List.reverse_append, List.reverse_reverse,
    inBucket_sections]

end Findings

/-- A stage of an analysis behind that over the properties. -/
inductive Stage where
  | variables
  | targets
  | triggers
  | actions
  deriving DecidableEq

namespace Stage

/-- The stages in the order of an analysis. -/
def all : List Stage := [.variables, .targets, .triggers, .actions]

/-- The buckets that a stage writes into. -/
def buckets : Stage → List Bucket
  | .variables => [.variables]
  | .targets => [.targets]
  | .triggers => [.triggers]
  | .actions => [.activities, .atomics, .statistics]

/-- What a stage finds in a document. -/
def pass (config : Config) (mode : Mode) (d : Document) : Stage → Pass
  | .variables => Pass.declarations config d
  | .targets => Pass.targets config d
  | .triggers => Pass.triggers d
  | .actions => Pass.actions mode d

variable (config : Config) (mode : Mode) (d : Document)

/-- Each bucket of a stage gets what the rules of the bucket find, and no other gets anything. -/
theorem inBucket_pass (stage : Stage) (b : Bucket) :
    Pass.inBucket (stage.pass config mode d) b =
      if b ∈ stage.buckets then d.bucketFindings config mode b else [] := by
  cases stage <;> cases b <;>
    simp [pass, buckets, Pass.declarations, Pass.targets, Pass.triggers, Pass.actions,
      Pass.inBucket_append, Pass.inBucket_into, Document.bucketFindings]

theorem mem_buckets_of_mem_pass {stage : Stage} {x : Bucket × Finding}
    (h : x ∈ stage.pass config mode d) : x.1 ∈ stage.buckets := by
  have found : x.2 ∈ Pass.inBucket (stage.pass config mode d) x.1 := Pass.mem_inBucket.2 h
  rw [inBucket_pass] at found
  by_contra other
  rw [if_neg other] at found
  cases found

theorem disjoint_buckets {s t : Stage} (h : s ≠ t) {b c : Bucket} (hb : b ∈ s.buckets)
    (hc : c ∈ t.buckets) : b ≠ c := by
  rintro rfl
  revert h hb hc
  cases s <;> cases t <;> cases b <;> decide

end Stage

namespace Document

/-- The findings when a stage has run. -/
def run (d : Document) (config : Config) (mode : Mode) (fs : Findings) (stage : Stage) : Findings :=
  fs.pushAll (stage.pass config mode d)

/-- The findings when the stages have run one after the other. -/
def runAll (d : Document) (config : Config) (mode : Mode) (fs : Findings) (stages : List Stage) :
    Findings :=
  stages.foldl (d.run config mode) fs

variable (d : Document) (config : Config) (mode : Mode)

theorem run_comm (s t : Stage) (fs : Findings) :
    d.run config mode (d.run config mode fs s) t =
      d.run config mode (d.run config mode fs t) s := by
  by_cases same : s = t
  · rw [same]
  · refine Findings.pushAll_comm (fun x hx y hy => ?_) fs
    exact Stage.disjoint_buckets same (Stage.mem_buckets_of_mem_pass config mode d hx)
      (Stage.mem_buckets_of_mem_pass config mode d hy)

theorem runAll_perm {order order' : List Stage} (h : order.Perm order') (fs : Findings) :
    d.runAll config mode fs order = d.runAll config mode fs order' :=
  h.foldl_eq' (fun s _ t _ fs => d.run_comm config mode s t fs) fs

/-- An analysis runs the stages behind the pass over the properties. -/
theorem pushAll_findings :
    Findings.empty.pushAll (d.findings config mode) =
      d.runAll config mode (Findings.empty.pushAll (Pass.properties mode d)) Stage.all := by
  simp only [findings, Findings.pushAll_append]
  rfl

/-- **The stages are independent.** They may run in any order, behind whatever was found already,
and the report is that of the order in which an analysis runs them. A stage leaves every bucket that is
not its own as it was, and adds to its own at the end only. -/
theorem stages_in_any_order :
    (∀ (fs : Findings) (order : List Stage), order.Perm Stage.all →
      Report.ofFindings (d.runAll config mode fs order) =
        Report.ofFindings (d.runAll config mode fs Stage.all)) ∧
    (∀ (fs : Findings) (stage : Stage), ∀ b ∉ stage.buckets,
      (d.run config mode fs stage).sections.lookup b = fs.sections.lookup b) ∧
    (∀ fs : Findings, fs.pushed.Ordered → ∀ (stage : Stage), ∀ b ∈ stage.buckets,
      (d.run config mode fs stage).sections.inBucket b =
        fs.sections.inBucket b ++ d.bucketFindings config mode b) ∧
    (d.mode? = .ok mode → d.report config = .ok (Report.ofFindings
      (d.runAll config mode (Findings.empty.pushAll (Pass.properties mode d)) Stage.all))) := by
  refine ⟨fun fs order h => ?_, fun fs stage b other => ?_, fun fs ordered stage b own => ?_,
    fun stated => ?_⟩
  · rw [runAll_perm d config mode h]
  · refine Findings.lookup_sections_pushAll (fun x hx same => other ?_) fs
    rw [same]
    exact Stage.mem_buckets_of_mem_pass config mode d hx
  · have found := Stage.inBucket_pass config mode d stage b
    rw [if_pos own] at found
    rw [run, Findings.inBucket_sections_pushAll _ ordered, found]
  · rw [report, stated, ← pushAll_findings]
    rfl

/-- A workflow in which every stage finds something. -/
def sketch : Document :=
  ofMembers [("targets", .bool true), ("triggers", .arr [.obj [("name", .str "t")]]),
    ("atomic_workflows", .arr [.str "a"]),
    ("workflow", .obj [
      ("properties", .obj [("atomic", .obj [("is_atomic", .bool false)])]),
      ("variables", .arr [.null]),
      ("actions", .arr [.obj [("type", .str "corejava.jsonpathquery")]])])]

/-- Findings that were there before, two of them in buckets of the stages. -/
def earlier : Findings :=
  Findings.empty.pushAll [(.atomics, Rules.unresolved "b"), (.properties, Rules.categories sketch),
    (.targets, Rules.embeddedTargets sketch)]

theorem stages_in_any_order_sketch :
    [Stage.actions, .triggers, .variables, .targets].Perm Stage.all ∧
      Report.ofFindings (sketch.runAll .builtIn .workflow earlier
          [.actions, .triggers, .variables, .targets]) =
        Report.ofFindings (sketch.runAll .builtIn .workflow earlier Stage.all) ∧
      Bucket.targets ∉ Stage.actions.buckets ∧
      (sketch.run .builtIn .workflow earlier .actions).sections.lookup .targets =
        earlier.sections.lookup .targets ∧
      earlier.pushed.Ordered ∧ Bucket.atomics ∈ Stage.actions.buckets ∧
      (sketch.run .builtIn .workflow earlier .actions).sections.inBucket .atomics =
        earlier.sections.inBucket .atomics ++ sketch.bucketFindings .builtIn .workflow .atomics ∧
      sketch.mode? = .ok .workflow ∧
      sketch.report .builtIn = .ok (Report.ofFindings (sketch.runAll .builtIn .workflow
        (Findings.empty.pushAll (Pass.properties .workflow sketch)) Stage.all)) := by
  obtain ⟨any, others, own, analysis⟩ := stages_in_any_order sketch .builtIn .workflow
  have order : [Stage.actions, .triggers, .variables, .targets].Perm Stage.all := by decide
  have ordered : earlier.pushed.Ordered :=
    (Findings.pushAll_spec _ Findings.empty List.Pairwise.nil).1
  have stated : sketch.mode? = .ok .workflow := rfl
  exact ⟨order, any earlier _ order, by decide, others earlier .actions .targets (by decide),
    ordered, by decide, own earlier ordered .actions .atomics (by decide), stated, analysis stated⟩

end Document

end WorkflowLint
