import WorkflowLint.Proofs.Document.Faults
import WorkflowLint.Proofs.Report.Sections

/-!
# What the settings have a part in

Three rules look at the settings, each at some of them (`Config.AgreeOn`), and all they do is to warn.
Whatever findings of a report are kept, they do not change with the configuration as long as the rules
they come from do not see the difference (`only_analyze_congr`).
-/

set_option autoImplicit false

namespace WorkflowLint

/-- The configurations do not differ in what the rule with this code looks at. -/
def Config.AgreeOn (c c' : Config) (code : String) : Prop :=
  if code = "VAR002" then
    c.minDescriptionLength = c'.minDescriptionLength ∧ c.descriptionScopes = c'.descriptionScopes
  else if code = "VAR003" then c.namingExceptions = c'.namingExceptions
  else if code = "TGT003" then
    c.defaultTargetGroupId = c'.defaultTargetGroupId ∧ c.defaultTargetTypes = c'.defaultTargetTypes
  else True

/-- The codes of the rules that look at the settings. -/
def Rules.configurable : List String := ["VAR002", "VAR003", "TGT003"]

theorem Config.agreeOn_of_not_mem {code : String} (h : code ∉ Rules.configurable) (c c' : Config) :
    c.AgreeOn c' code := by
  simp only [Rules.configurable, List.mem_cons, List.not_mem_nil, or_false, not_or] at h
  rw [AgreeOn, if_neg h.1, if_neg h.2.1, if_neg h.2.2]
  trivial

/-- The findings with the codes that are kept. -/
def keeping (keep : String → Bool) (findings : List Finding) : List Finding :=
  findings.filter fun f => keep f.code

/-- The sections of a report with only those findings in them. -/
def Report.only (keep : String → Bool) (r : Report) : Sections :=
  r.sections.map fun s => (s.1, keeping keep s.2)

section

variable {keep : String → Bool}

theorem keeping_append (fs gs : List Finding) :
    keeping keep (fs ++ gs) = keeping keep fs ++ keeping keep gs :=
  List.filter_append fs gs

theorem keeping_flatMap {α : Type} (findings : α → List Finding) (list : List α) :
    keeping keep (list.flatMap findings) = list.flatMap fun a => keeping keep (findings a) :=
  List.filter_flatMap

theorem keeping_eq_nil {code : String} {findings : List Finding} (dropped : keep code = false)
    (coded : ∀ f ∈ findings, f.code = code) : keeping keep findings = [] := by
  refine List.filter_eq_nil_iff.2 fun f hf => ?_
  rw [coded f hf, dropped]
  exact Bool.false_ne_true

/-- A rule of one code shows a difference between configurations only if its findings are kept and it
sees the difference. -/
theorem keeping_congr (rule : Config → List Finding) {code : String} {c c' : Config}
    (coded : ∀ config, ∀ f ∈ rule config, f.code = code)
    (same : c.AgreeOn c' code → rule c = rule c') (h : keep code = true → c.AgreeOn c' code) :
    keeping keep (rule c) = keeping keep (rule c') := by
  cases kept : keep code with
  | true => rw [same (h kept)]
  | false => rw [keeping_eq_nil kept (coded c), keeping_eq_nil kept (coded c')]

end

namespace Rules

/-! ### The rules that look at the settings -/

section

variable {c c' : Config}

theorem shortDescription_congr (h : c.AgreeOn c' "VAR002") (v : Declared) :
    shortDescription c v = shortDescription c' v := by
  obtain ⟨length, scopes, exceptions, group, types⟩ := c
  obtain ⟨rfl, rfl⟩ := h
  rfl

theorem unconventionalName_congr (h : c.AgreeOn c' "VAR003") (v : Declared) :
    unconventionalName c v = unconventionalName c' v := by
  obtain ⟨length, scopes, exceptions, group, types⟩ := c
  obtain rfl : exceptions = c'.namingExceptions := h
  rfl

/-- What is found on the type of a target of the group with this identifier. -/
def targetTypeIn (id title : String) (target : GroupTarget) (config : Config) : List Finding :=
  if id = config.defaultTargetGroupId then targetType config title target else []

theorem targetTypeIn_congr (h : c.AgreeOn c' "TGT003") (id title : String) (target : GroupTarget) :
    targetTypeIn id title target c = targetTypeIn id title target c' := by
  obtain ⟨length, scopes, exceptions, group, types⟩ := c
  obtain ⟨rfl, rfl⟩ := h
  rfl

end

theorem code_of_mem_shortDescription {config : Config} {v : Declared} :
    ∀ f ∈ shortDescription config v, f.code = "VAR002" := by
  intro f hf
  unfold shortDescription at hf
  split at hf
  · rw [List.mem_singleton.1 hf]
    rfl
  · cases hf

theorem code_of_mem_unconventionalName {config : Config} {v : Declared} :
    ∀ f ∈ unconventionalName config v, f.code = "VAR003" := by
  intro f hf
  unfold unconventionalName at hf
  dsimp only at hf
  split at hf
  · cases hf
  · rw [List.mem_singleton.1 hf]
    rfl

theorem code_of_mem_targetTypeIn {id title : String} {target : GroupTarget} {config : Config} :
    ∀ f ∈ targetTypeIn id title target config, f.code = "TGT003" := by
  intro f hf
  unfold targetTypeIn targetType at hf
  split at hf
  · split at hf
    · cases hf
    · rw [List.mem_singleton.1 hf]
      rfl
  · cases hf

/-! ### Variables and targets -/

section

variable {keep : String → Bool} {c c' : Config}
  (agree : ∀ code, keep code = true → c.AgreeOn c' code)

include agree

theorem keeping_declaration (v : Option Variable) :
    keeping keep (declaration c v) = keeping keep (declaration c' v) := by
  unfold declaration
  cases Declared.ofVariable? v with
  | none => rfl
  | some v =>
    have short : keeping keep (shortDescription c v) = keeping keep (shortDescription c' v) :=
      keeping_congr (fun config => shortDescription config v)
        (fun _ => code_of_mem_shortDescription) (fun h => shortDescription_congr h v)
        (agree "VAR002")
    have name : keeping keep (unconventionalName c v) = keeping keep (unconventionalName c' v) :=
      keeping_congr (fun config => unconventionalName config v)
        (fun _ => code_of_mem_unconventionalName) (fun h => unconventionalName_congr h v)
        (agree "VAR003")
    simp only [keeping_append, short, name]

theorem keeping_declarations (d : Document) :
    keeping keep (declarations c d) = keeping keep (declarations c' d) := by
  unfold declarations
  dsimp only
  rw [keeping_append, keeping_append]
  congr 1
  split
  · simp only [keeping_flatMap, keeping_declaration agree]
  · rfl

theorem keeping_groupTarget (id : String) (group : TargetGroup) (target : GroupTarget) :
    keeping keep (groupTarget c id group target) = keeping keep (groupTarget c' id group target) := by
  have split (config : Config) : groupTarget config id group target =
      selectedTargets (groupTitle id group) target ++
        targetTypeIn id (groupTitle id group) target config := rfl
  rw [split, split, keeping_append, keeping_append]
  congr 1
  exact keeping_congr (targetTypeIn id _ target) (fun _ => code_of_mem_targetTypeIn)
    (fun h => targetTypeIn_congr h id _ target) (agree "TGT003")

theorem keeping_targets (d : Document) :
    keeping keep (targets c d) = keeping keep (targets c' d) := by
  have parts (config : Config) : targets config d =
      [embeddedTargets d] ++ (d.targetGroups.present?.getD []).flatMap (targetGroup config) := rfl
  rw [parts, parts, keeping_append, keeping_append, keeping_flatMap, keeping_flatMap]
  unfold targetGroup
  simp only [keeping_flatMap, keeping_groupTarget agree]

end

end Rules

section

variable {keep : String → Bool} {c c' : Config}
  (agree : ∀ code, keep code = true → c.AgreeOn c' code)

include agree

/-- Only two buckets can depend on the settings. -/
theorem Document.keeping_bucketFindings (d : Document) (mode : Mode) (b : Bucket) :
    keeping keep (d.bucketFindings c mode b) = keeping keep (d.bucketFindings c' mode b) :=
  match b with
  | .properties => rfl
  | .variables => Rules.keeping_declarations agree d
  | .triggers => rfl
  | .targets => Rules.keeping_targets agree d
  | .activities => rfl
  | .atomics => rfl
  | .statistics => rfl

theorem Json.only_report_congr (v : Json) (flag : Bool) :
    (v.report c flag).only keep = (v.report c' flag).only keep := by
  have sections (config : Config) : (v.report config flag).only keep =
      Bucket.all.map fun b => (b, keeping keep ((v.report config flag).inBucket b)) := by
    have present (b : Bucket) : ((v.report config flag).inBucket b).isEmpty = false :=
      List.isEmpty_eq_false_iff.2 (v.inBucket_report_ne_nil config flag b)
    have whole : (v.report config flag).sections = Sections.ofBuckets (v.report config flag).inBucket :=
      Report.sections_ofPushes _
    rw [Report.only, whole, Sections.ofBuckets, List.map_map]
    simp only [present, Bool.not_false, List.filter_true]
    rfl
  rw [sections, sections]
  refine List.map_congr_left fun b _ => ?_
  unfold Json.report
  rw [Document.inBucket_report, Document.inBucket_report, Document.keeping_bucketFindings agree]

/-- What is kept of a report is the same under configurations that agree on it. -/
theorem only_analyze_congr (text : String) :
    (analyze text c).map (Report.only keep) = (analyze text c').map (Report.only keep) := by
  rcases analyze_cases text with ⟨f, -, -, hf⟩ | ⟨members, gap, -, -, hf⟩ |
    ⟨members, flag, -, -, -, hr⟩
  · rw [hf, hf]
  · rw [hf, hf]
  · rw [hr, hr]
    exact congrArg Except.ok (Json.only_report_congr agree _ flag)

end

/-- The counts of the report besides that of the warnings are no matter of the settings. -/
theorem get_summary_analyze {s : Severity} (h : s ≠ .warning) (text : String) (c c' : Config) :
    (analyze text c).map (fun r => r.summary.get s) =
      (analyze text c').map fun r => r.summary.get s := by
  rcases analyze_cases text with ⟨f, -, -, hf⟩ | ⟨members, gap, -, -, hf⟩ |
    ⟨members, flag, -, -, -, hr⟩
  · rw [hf, hf]
  · rw [hf, hf]
  · rw [hr, hr]
    exact congrArg Except.ok ((Json.get_summary_report _ c flag h).trans
      (Json.get_summary_report _ c' flag h).symm)

theorem analyze_eq_error_congr (text : String) (c c' : Config) (f : Failure) :
    analyze text c = .error f ↔ analyze text c' = .error f := by
  rcases analyze_cases text with ⟨_, -, -, hf⟩ | ⟨_, _, -, -, hf⟩ | ⟨_, _, -, -, -, hr⟩
  · rw [hf, hf]
  · rw [hf, hf]
  · rw [hr, hr]
    constructor <;> intro h <;> cases h

/-- **The settings move three warnings.** Under any two configurations a text has the same outcome;
its reports are the same, section by section, but for the findings of the three rules that look at
the settings; and each of these three finds the same if what it looks at is the same. -/
theorem analyze_under_settings (text : String) (c c' : Config) :
    (∀ f, analyze text c = .error f ↔ analyze text c' = .error f) ∧
    (analyze text c).map (Report.only fun code => !Rules.configurable.contains code) =
      (analyze text c').map (Report.only fun code => !Rules.configurable.contains code) ∧
    (∀ s, s ≠ .warning → (analyze text c).map (fun r => r.summary.get s) =
      (analyze text c').map fun r => r.summary.get s) ∧
    ∀ code, c.AgreeOn c' code →
      (analyze text c).map (Report.only (· == code)) =
        (analyze text c').map (Report.only (· == code)) := by
  refine ⟨analyze_eq_error_congr text c c', only_analyze_congr (fun code kept => ?_) text,
    fun s h => get_summary_analyze h text c c', fun code h => ?_⟩
  · exact Config.agreeOn_of_not_mem (by simpa using kept) c c'
  · refine only_analyze_congr (fun code' kept => ?_) text
    rw [beq_iff_eq.1 kept]
    exact h

/-- Longer descriptions are asked for, and in another scope. -/
def talkative : Config :=
  { Config.builtIn with minDescriptionLength := 99, descriptionScopes := ["global", "local"] }

/-- Other descriptions may be too short then, but the same names are unconventional. -/
theorem analyze_under_settings_talkative :
    ¬Config.builtIn.AgreeOn talkative "VAR002" ∧ Config.builtIn.AgreeOn talkative "VAR003" ∧
      (analyze faultyWorkflow.compact .builtIn).map (Report.only (· == "VAR003")) =
        (analyze faultyWorkflow.compact talkative).map (Report.only (· == "VAR003")) := by
  have names : Config.builtIn.AgreeOn talkative "VAR003" := rfl
  refine ⟨fun h => ?_, names,
    (analyze_under_settings faultyWorkflow.compact .builtIn talkative).2.2.2 "VAR003" names⟩
  exact absurd h.1 (by decide)

end WorkflowLint
