import Mathlib.Algebra.Order.BigOperators.Group.List
import Mathlib.Algebra.Order.Group.Nat
import WorkflowLint.Proofs.Document.Edits
import WorkflowLint.Proofs.Rules.Settings
import WorkflowLint.Proofs.Rules.Targets

/-!
# Stricter settings

A configuration that asks for longer descriptions, in more scopes, and lets fewer types of targets pass
gets more warnings and loses no finding: every list of findings is `Extended` by warnings of two rules,
and only the details may be told in other words (`report_of_stricter`).
-/

set_option autoImplicit false

namespace WorkflowLint

/-- The second configuration lets nothing pass that the first one does not: descriptions may have to
be longer, and so in more scopes, and targets of the default group may have to be of fewer types. -/
structure Config.Stricter (c c' : Config) : Prop where
  length : c.minDescriptionLength ≤ c'.minDescriptionLength
  scopes : ∀ scope ∈ c.descriptionScopes, scope ∈ c'.descriptionScopes
  types : ∀ type ∈ c'.defaultTargetTypes, type ∈ c.defaultTargetTypes
  exceptions : c.namingExceptions = c'.namingExceptions
  group : c.defaultTargetGroupId = c'.defaultTargetGroupId

/-- All that a finding says but for its detail. -/
def Finding.headline (f : Finding) : String × Severity × String × String :=
  (f.code, f.severity, f.title, f.description)

theorem Finding.headline_withMoreInfo (f : Finding) (text : String) :
    (f.withMoreInfo text).headline = f.headline := rfl

/-- A warning about a description that is too short or a type of targets that is not let pass. -/
def Finding.IsAsked (f : Finding) : Prop :=
  f.severity = .warning ∧ (f.code = "VAR002" ∨ f.code = "TGT003")

/-- The second list has the findings of the first one, up to their details, and between them nothing
but warnings that were asked for. -/
inductive Extended : List Finding → List Finding → Prop
  | nil : Extended [] []
  | same {f g : Finding} {fs gs : List Finding} (headline : f.headline = g.headline)
      (behind : Extended fs gs) : Extended (f :: fs) (g :: gs)
  | more {g : Finding} {fs gs : List Finding} (asked : g.IsAsked) (behind : Extended fs gs) :
      Extended fs (g :: gs)

namespace Extended

variable {fs gs fs' gs' : List Finding}

theorem refl (fs : List Finding) : Extended fs fs := by
  induction fs with
  | nil => exact .nil
  | cons f rest ih => exact .same rfl ih

theorem of_eq (h : fs = gs) : Extended fs gs := h ▸ refl fs

theorem append (h : Extended fs gs) (h' : Extended fs' gs') : Extended (fs ++ fs') (gs ++ gs') := by
  induction h with
  | nil => exact h'
  | same headline _ ih => exact .same headline ih
  | more asked _ ih => exact .more asked ih

theorem flatMap {α : Type} {findings findings' : α → List Finding} (list : List α)
    (h : ∀ a, Extended (findings a) (findings' a)) :
    Extended (list.flatMap findings) (list.flatMap findings') := by
  induction list with
  | nil => exact .nil
  | cons a rest ih => exact (h a).append ih

theorem sublist (h : Extended fs gs) :
    (fs.map Finding.headline).Sublist (gs.map Finding.headline) := by
  induction h with
  | nil => exact .slnil
  | same headline _ ih =>
    rw [List.map_cons, List.map_cons, headline]
    exact ih.cons_cons _
  | more _ _ ih => exact ih.cons _

theorem count_warning (h : Extended fs gs) : Severity.warning.count fs ≤ Severity.warning.count gs := by
  induction h with
  | nil => exact Nat.le_refl 0
  | @same f g fs gs headline _ ih =>
    have severity : f.severity = g.severity := congrArg (fun line => line.2.1) headline
    rw [Severity.count_cons, Severity.count_cons, severity]
    exact Nat.add_le_add_right ih _
  | more _ _ ih =>
    rw [Severity.count_cons]
    exact Nat.le_add_right_of_le ih

end Extended

namespace Rules

variable {c c' : Config} (h : c.Stricter c')

include h

theorem extended_shortDescription (v : Declared) :
    Extended (shortDescription c v) (shortDescription c' v) := by
  unfold shortDescription
  by_cases short : c.requiresLongDescription v.scope = true ∧
      v.description.length < c.minDescriptionLength
  · have scope : v.scope ∈ c.descriptionScopes := List.contains_iff_mem.1 short.1
    have short' : c'.requiresLongDescription v.scope = true ∧
        v.description.length < c'.minDescriptionLength :=
      ⟨List.contains_iff_mem.2 (h.scopes _ scope), Nat.lt_of_lt_of_le short.2 h.length⟩
    rw [if_pos short, if_pos short']
    refine .same ?_ .nil
    rw [Finding.headline_withMoreInfo, Finding.headline_withMoreInfo]
  · rw [if_neg short]
    split
    · exact .more ⟨rfl, .inl rfl⟩ .nil
    · exact .nil

theorem extended_declaration (v : Option Variable) :
    Extended (declaration c v) (declaration c' v) := by
  unfold declaration
  cases Declared.ofVariable? v with
  | none => exact .refl _
  | some v =>
    have names : c.AgreeOn c' "VAR003" := h.exceptions
    refine ((extended_shortDescription h v).append ?_).append (.refl _)
    exact .of_eq (unconventionalName_congr names v)

theorem extended_declarations (d : Document) : Extended (declarations c d) (declarations c' d) := by
  unfold declarations
  dsimp only
  refine .append ?_ (.refl _)
  split
  · exact .flatMap _ (extended_declaration h)
  · exact .refl _

theorem any_isDefaultTargetType {type : Option String}
    (known : type.any c'.isDefaultTargetType = true) : type.any c.isDefaultTargetType = true := by
  cases type with
  | none => exact known
  | some type => exact List.contains_iff_mem.2 (h.types type (List.contains_iff_mem.1 known))

theorem extended_targetType (title : String) (target : GroupTarget) :
    Extended (targetType c title target) (targetType c' title target) := by
  unfold targetType
  by_cases known : target.type.any c'.isDefaultTargetType = true
  · rw [if_pos known, if_pos (any_isDefaultTargetType h known)]
    exact .nil
  · rw [if_neg known]
    split
    · exact .more ⟨rfl, .inr rfl⟩ .nil
    · refine .same ?_ .nil
      rw [Finding.headline_withMoreInfo, Finding.headline_withMoreInfo]

theorem extended_groupTarget (id : String) (group : TargetGroup) (target : GroupTarget) :
    Extended (groupTarget c id group target) (groupTarget c' id group target) := by
  unfold groupTarget
  dsimp only
  rw [h.group]
  refine (Extended.refl _).append ?_
  split
  · exact extended_targetType h _ target
  · exact .nil

theorem extended_targets (d : Document) : Extended (targets c d) (targets c' d) :=
  .same rfl (.flatMap _ fun entry => .flatMap _ (extended_groupTarget h entry.1 entry.2))

end Rules

/-- Only two buckets can get more findings. -/
theorem Document.extended_bucketFindings {c c' : Config} (h : c.Stricter c') (d : Document) (mode : Mode)
    (b : Bucket) : Extended (d.bucketFindings c mode b) (d.bucketFindings c' mode b) :=
  match b with
  | .properties => .refl _
  | .variables => Rules.extended_declarations h d
  | .triggers => .refl _
  | .targets => Rules.extended_targets h d
  | .activities => .refl _
  | .atomics => .refl _
  | .statistics => .refl _

section

variable {c c' : Config} (h : c.Stricter c')

include h

theorem Json.extended_report (v : Json) (flag : Bool) (b : Bucket) :
    Extended ((v.report c flag).inBucket b) ((v.report c' flag).inBucket b) := by
  unfold Json.report
  rw [Document.inBucket_report, Document.inBucket_report]
  exact Document.extended_bucketFindings h _ _ b

theorem Json.warning_report_le (v : Json) (flag : Bool) :
    (v.report c flag).summary.get .warning ≤ (v.report c' flag).summary.get .warning := by
  have counted (config : Config) : (v.report config flag).summary.get .warning =
      (Bucket.all.map fun b => Severity.warning.count ((v.report config flag).inBucket b)).sum :=
    Report.get_summary_ofPushes _ .warning
  rw [counted, counted]
  exact List.sum_le_sum fun b _ => (Json.extended_report h v flag b).count_warning

end

/-- **Stricter settings hide nothing.** Under a stricter configuration a text gets a report again if it
got one. Every bucket shows the same findings in the same order, up to their details, with nothing but
warnings about short descriptions and types of targets between them, so that only the number of
warnings can grow. -/
theorem report_of_stricter {text : String} {c c' : Config} {report : Report} (stricter : c.Stricter c')
    (h : analyze text c = .ok report) :
    ∃ report', analyze text c' = .ok report' ∧
      (∀ b, ((report.inBucket b).map Finding.headline).Sublist
        ((report'.inBucket b).map Finding.headline)) ∧
      (∀ b, Extended (report.inBucket b) (report'.inBucket b)) ∧
      report.summary.warning ≤ report'.summary.warning ∧
      report.summary.success = report'.summary.success ∧
      report.summary.info = report'.summary.info ∧
      report.summary.error = report'.summary.error := by
  obtain ⟨members, flag, read, stated, rfl⟩ := exists_of_analyze_eq_ok h
  have extended := Json.extended_report stricter (.obj members) flag
  have counts {s : Severity} (other : s ≠ .warning) :
      ((Json.obj members).report c flag).summary.get s =
        ((Json.obj members).report c' flag).summary.get s :=
    (Json.get_summary_report _ c flag other).trans (Json.get_summary_report _ c' flag other).symm
  exact ⟨_, analyze_eq_report read stated c', fun b => (extended b).sublist, extended,
    Json.warning_report_le stricter _ flag, counts (s := .success) (by decide),
    counts (s := .info) (by decide), counts (s := .error) (by decide)⟩

/-- Long descriptions in one scope more, and targets of one type only. -/
def demanding : Config :=
  { Config.builtIn with
    minDescriptionLength := 99
    descriptionScopes := "global" :: Config.builtIn.descriptionScopes
    defaultTargetTypes := ["email.smtp_endpoint"] }

example : groupedWorkflow.groups.map (fun group => (Group.findings .builtIn group).length) = [3, 1, 0] ∧
    groupedWorkflow.groups.map (fun group => (Group.findings demanding group).length) = [4, 1, 0] := by
  decide +kernel

theorem report_of_stricter_demanding :
    Config.builtIn.Stricter demanding ∧
    ∃ report report', analyze groupedWorkflow.compact .builtIn = .ok report ∧
      analyze groupedWorkflow.compact demanding = .ok report' ∧
      (∀ b, ((report.inBucket b).map Finding.headline).Sublist
        ((report'.inBucket b).map Finding.headline)) ∧
      (∀ b, Extended (report.inBucket b) (report'.inBucket b)) ∧
      report.summary.warning ≤ report'.summary.warning ∧
      report.summary.success = report'.summary.success ∧
      report.summary.info = report'.summary.info ∧
      report.summary.error = report'.summary.error := by
  have stricter : Config.builtIn.Stricter demanding := by
    constructor <;> decide
  obtain ⟨report, analyzed⟩ := exists_report_groupedWorkflow
  obtain ⟨report', spec⟩ := report_of_stricter stricter analyzed
  exact ⟨stricter, report, report', analyzed, spec⟩

end WorkflowLint
