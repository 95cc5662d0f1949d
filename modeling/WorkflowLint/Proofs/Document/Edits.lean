import WorkflowLint.Proofs.Document.Nodes
import WorkflowLint.Proofs.Json.Members
import WorkflowLint.Proofs.Outcome
import WorkflowLint.Proofs.Report.Frame
import WorkflowLint.Proofs.Report.Summary

/-!
# Edits of one member

Whoever changes, adds or removes one member of a document changes the findings on that member and
nothing else in its report. `Place` names a member, `Place.Edit` relates the values before and after,
and `Place.Confines` says how far the reports may differ. The reason is that no two rule modules share
a field (`Document.AgreeOn`), but for the action forest, and that the mode shows in two findings only.
-/

set_option autoImplicit false

namespace WorkflowLint

/-- A member of a document, at its root or inside its `workflow`. -/
inductive Place where
  | root (key : String)
  | workflow (key : String)
  deriving DecidableEq

namespace Place

/-- The values differ at most in the member at the place. The `workflow` is no such member, and its
`properties` may only be replaced by others that state a mode. -/
def Edit : Place → Json → Json → Prop
  | .root key, v, w => key ≠ "workflow" ∧ v.EqualBut key w
  | .workflow key, v, w =>
    v.EqualBut "workflow" w ∧
      (∃ a b, v.get? "workflow" = some a ∧ w.get? "workflow" = some b ∧ a.EqualBut key b) ∧
      (key = "properties" → ∃ flag, w.at? Gap.isAtomic.path = some (.bool flag))

/-- The members that rules look at. -/
def known : List Place :=
  [.root "categories", .root "targets", .root "target_groups", .root "triggers",
    .root "atomic_workflows", .workflow "variables", .workflow "actions", .workflow "properties"]

/-- The buckets whose findings are about the member. -/
def owned : Place → List Bucket
  | .root "targets" => [.targets]
  | .root "target_groups" => [.targets]
  | .root "triggers" => [.triggers]
  | .root "atomic_workflows" => [.atomics]
  | .workflow "variables" => [.variables]
  | .workflow "actions" => [.activities, .atomics, .statistics]
  | _ => []

/-- A finding without what it says about the member, if its bucket is not about the member. -/
def blur (p : Place) (f : Finding) : Finding :=
  if p = .root "categories" ∧ f.code = "PROP002" then { f with description := "" }
  else if p = .workflow "properties" ∧ f.code = "PROP001" then
    { f with description := "", moreInfo := none }
  else if p = .workflow "properties" ∧ f.code = "ACT001" then { f with description := "" }
  else f

/-- The reports differ at most in what the member at the place has a part in: in the buckets about
it, or else in the texts that `blur` takes away. -/
structure Confines (p : Place) (before after : Report) : Prop where
  inBucket : ∀ b, b ∉ p.owned → (after.inBucket b).map p.blur = (before.inBucket b).map p.blur
  summary : p.owned = [] → after.summary = before.summary
  unread : p ∉ known → after = before

end Place

/-! ### Documents before and after -/

theorem Members.field_congr {α : Type} {v w : Json} {key : String} (h : v.get? key = w.get? key)
    (read? : Json → Option α) : field v.fields key read? = field w.fields key read? := by
  rw [field, field, Json.lookup_fields, Json.lookup_fields, h]

namespace Document

/-- A member of the root matters to the one bucket that looks at it. -/
theorem agreeOn_root {key : String} {v w : Json} (workflow : key ≠ "workflow")
    (same : v.EqualBut key w) {b : Bucket} (owned : b ∉ (Place.root key).owned)
    (categories : ¬(key = "categories" ∧ b = .properties)) :
    (ofMembers v.fields).AgreeOn (ofMembers w.fields) b :=
  have body : v.get? "workflow" = w.get? "workflow" := same _ workflow.symm
  have forest : (ofMembers v.fields).forest = (ofMembers w.fields).forest := by
    simp only [forest_fields, Json.at?, body]
  match b with
  | .properties => by
    have other : key ≠ "categories" := fun e => categories ⟨e, rfl⟩
    exact congrArg Field.present? (Members.field_congr (same _ other.symm) _)
  | .variables =>
    congrArg (fun f => Option.map WorkflowBody.declarations (Field.present? f))
      (Members.field_congr body WorkflowBody.ofJson?)
  | .triggers => by
    have other : key ≠ "triggers" := fun e => owned (by simp [e, Place.owned])
    exact congrArg Field.present? (Members.field_congr (same _ other.symm) _)
  | .targets => by
    have other : key ≠ "targets" := fun e => owned (by simp [e, Place.owned])
    have groups : key ≠ "target_groups" := fun e => owned (by simp [e, Place.owned])
    exact ⟨congrArg Field.isSet (Members.field_congr (same _ other.symm) some),
      congrArg Field.present? (Members.field_congr (same _ groups.symm) _)⟩
  | .activities => forest
  | .atomics => by
    have other : key ≠ "atomic_workflows" := fun e => owned (by simp [e, Place.owned])
    exact ⟨forest, congrArg Field.present? (Members.field_congr (same _ other.symm) _)⟩
  | .statistics => forest

/-- A member of the workflow matters to the buckets that look at it, whatever the mode is. -/
theorem agreeOn_workflow {key : String} {v w a b : Json} (outside : v.EqualBut "workflow" w)
    (before : v.get? "workflow" = some a) (after : w.get? "workflow" = some b)
    (inside : a.EqualBut key b) (objects : a.isObject ∧ b.isObject) {bucket : Bucket}
    (owned : bucket ∉ (Place.workflow key).owned) :
    (ofMembers v.fields).AgreeOn (ofMembers w.fields) bucket :=
  have forest (h : key ≠ "actions") :
      (ofMembers v.fields).forest = (ofMembers w.fields).forest := by
    simp only [forest_fields, Json.at?, before, after, Option.bind_some, inside _ h.symm]
  match bucket with
  | .properties => congrArg Field.present? (Members.field_congr (outside _ (by decide)) _)
  | .variables => by
    have other : key ≠ "variables" := fun e => owned (by simp [e, Place.owned])
    unfold AgreeOn
    rw [declared_fields, declared_fields, before, after, Option.filter_some, Option.filter_some,
      if_pos objects.1, if_pos objects.2, Option.map_some, Option.map_some,
      Members.field_congr (inside _ other.symm)]
  | .triggers => congrArg Field.present? (Members.field_congr (outside _ (by decide)) _)
  | .targets =>
    ⟨congrArg Field.isSet (Members.field_congr (outside "targets" (by decide)) some),
      congrArg Field.present? (Members.field_congr (outside _ (by decide)) _)⟩
  | .activities => forest fun e => owned (by simp [e, Place.owned])
  | .atomics =>
    ⟨forest fun e => owned (by simp [e, Place.owned]),
      congrArg Field.present? (Members.field_congr (outside _ (by decide)) _)⟩
  | .statistics => forest fun e => owned (by simp [e, Place.owned])

end Document

/-! ### Reports before and after -/

namespace Json

/-- Whatever stands below a value makes it an object. -/
theorem isObject_of_at? {v w : Json} {key : String} {rest : List String}
    (h : v.at? (key :: rest) = some w) : v.isObject := by
  obtain ⟨_, found, -⟩ := Option.bind_eq_some_iff.1 h
  exact isObject_of_get? found

theorem gap?_eq_none_of_at? {v : Json} {flag : Bool}
    (h : v.at? Gap.isAtomic.path = some (.bool flag)) : v.gap? = none := by
  have level (path : List String) (key : String) (rest : List String)
      (hp : Gap.isAtomic.path = path ++ key :: rest) : (v.at? path).any isObject := by
    rw [hp, at?_append] at h
    obtain ⟨x, hx, below⟩ := Option.bind_eq_some_iff.1 h
    rw [hx, Option.any_some]
    exact isObject_of_at? below
  have workflow : v.fills .workflow := level ["workflow"] _ _ rfl
  have properties : v.fills .properties := level ["workflow", "properties"] _ _ rfl
  have atomic : v.fills .atomic := level ["workflow", "properties", "atomic"] _ _ rfl
  have isAtomic : v.fills .isAtomic := by
    rw [fills, h]
    rfl
  simp [gap?, Gap.all, workflow, properties, atomic, isAtomic]

end Json

/-- A text whose value states a mode gets the report in that mode. -/
theorem analyze_eq_report {text : String} {v : Json} {flag : Bool} (read : Json.ofText text = .ok v)
    (h : v.at? Gap.isAtomic.path = some (.bool flag)) (config : Config) :
    analyze text config = .ok (v.report config flag) := by
  obtain ⟨members, rfl⟩ := Json.isObject_iff.1 (Json.isObject_of_at? h)
  rcases analyze_cases text with ⟨f, -, hread, -⟩ | ⟨members', gap, hread, hgap, -⟩ |
    ⟨members', flag', hread, -, hflag, hr⟩
  · exact absurd read (hread members)
  · cases read.symm.trans hread
    rw [Json.gap?_eq_none_of_at? h] at hgap
    cases hgap
  · cases read.symm.trans hread
    cases hflag.symm.trans h
    exact hr config

theorem Json.get?_workflow_of_at? {v : Json} {key : String} {rest : List String} {w : Json}
    (h : v.at? ("workflow" :: key :: rest) = some w) {a : Json} (ha : v.get? "workflow" = some a) :
    a.at? (key :: rest) = some w := by
  rw [at?, ha] at h
  exact h

namespace Place

variable {p : Place} {v w : Json}

/-- The edited document states a mode, and no other one unless the properties are edited. -/
theorem Edit.flag {flag : Bool} (edit : p.Edit v w)
    (h : v.at? Gap.isAtomic.path = some (.bool flag)) :
    ∃ flag', w.at? Gap.isAtomic.path = some (.bool flag') ∧
      (p ≠ .workflow "properties" → flag' = flag) := by
  cases p with
  | root key =>
    obtain ⟨workflow, same⟩ := edit
    refine ⟨flag, ?_, fun _ => rfl⟩
    rw [← h]
    simp only [Gap.path, Json.at?, same _ (Ne.symm workflow)]
  | workflow key =>
    obtain ⟨-, ⟨a, b, before, after, inside⟩, states⟩ := edit
    by_cases other : key = "properties"
    · obtain ⟨flag', stated⟩ := states other
      exact ⟨flag', stated, fun ne => absurd (congrArg Place.workflow other) ne⟩
    · refine ⟨flag, ?_, fun _ => rfl⟩
      rw [← h]
      simp only [Gap.path, Json.at?, before, after, Option.bind_some, inside _ (Ne.symm other)]

theorem Edit.agreeOn {flag flag' : Bool} (edit : p.Edit v w)
    (hv : v.at? Gap.isAtomic.path = some (.bool flag))
    (hw : w.at? Gap.isAtomic.path = some (.bool flag')) {b : Bucket} (owned : b ∉ p.owned)
    (categories : ¬(p = .root "categories" ∧ b = .properties)) :
    (Document.ofMembers v.fields).AgreeOn (Document.ofMembers w.fields) b := by
  cases p with
  | root key =>
    refine Document.agreeOn_root edit.1 edit.2 owned fun h => categories ⟨?_, h.2⟩
    rw [h.1]
  | workflow key =>
    obtain ⟨outside, ⟨x, y, before, after, inside⟩, -⟩ := edit
    have objects : x.isObject ∧ y.isObject :=
      ⟨Json.isObject_of_at? (Json.get?_workflow_of_at? hv before),
        Json.isObject_of_at? (Json.get?_workflow_of_at? hw after)⟩
    exact Document.agreeOn_workflow outside before after inside objects owned

theorem severity_blur (p : Place) (f : Finding) : (p.blur f).severity = f.severity := by
  unfold blur
  split
  · rfl
  · split
    · rfl
    · split <;> rfl

/-- The categories of a document show in the text of one finding. -/
theorem blur_categories (mode : Mode) (d d' : Document) :
    (Rules.properties mode d).map (blur (.root "categories")) =
      (Rules.properties mode d').map (blur (.root "categories")) := by
  have names (d : Document) : blur (.root "categories") (Rules.categories d) =
      Finding.info "PROP002" "Categories" "" := if_pos ⟨rfl, rfl⟩
  simp only [Rules.properties, List.map_cons, List.map_nil, names]

/-- The mode of a document shows in the texts of two findings. -/
theorem blur_mode (d : Document) (config : Config) (mode mode' : Mode) (b : Bucket) :
    (d.bucketFindings config mode b).map (blur (.workflow "properties")) =
      (d.bucketFindings config mode' b).map (blur (.workflow "properties")) :=
  match b with
  | .properties => rfl
  | .variables => rfl
  | .triggers => rfl
  | .targets => rfl
  | .activities => rfl
  | .atomics => rfl
  | .statistics => rfl

/-- Outside the buckets about the member, both reports say the same besides the blurred texts. -/
theorem Edit.inBucket {flag flag' : Bool} (edit : p.Edit v w)
    (hv : v.at? Gap.isAtomic.path = some (.bool flag))
    (hw : w.at? Gap.isAtomic.path = some (.bool flag'))
    (kept : p ≠ .workflow "properties" → flag' = flag) (config : Config) {b : Bucket}
    (owned : b ∉ p.owned) :
    ((w.report config flag').inBucket b).map p.blur =
      ((v.report config flag).inBucket b).map p.blur := by
  unfold Json.report
  rw [Document.inBucket_report, Document.inBucket_report]
  by_cases categories : p = .root "categories" ∧ b = .properties
  · obtain ⟨rfl, rfl⟩ := categories
    rw [kept (by decide)]
    exact blur_categories _ _ _
  · have same := edit.agreeOn hv hw owned categories
    rw [Document.bucketFindings_congr same]
    by_cases properties : p = .workflow "properties"
    · rw [properties]
      exact blur_mode _ config _ _ b
    · rw [kept properties]

end Place

/-- A summary does not see texts. -/
theorem Json.summary_report_congr {v w : Json} {config : Config} {flag flag' : Bool} (p : Place)
    (h : ∀ b, ((w.report config flag').inBucket b).map p.blur =
      ((v.report config flag).inBucket b).map p.blur) :
    (w.report config flag').summary = (v.report config flag).summary := by
  have unseen (s : Severity) (fs : List Finding) : s.count (fs.map p.blur) = s.count fs := by
    rw [Severity.count, List.countP_map]
    simp only [Function.comp_def, p.severity_blur]
    rfl
  refine Summary.ext_get fun s => ?_
  unfold report at h ⊢
  rw [Report.get_summary_ofPushes, Report.get_summary_ofPushes]
  refine congrArg List.sum (List.map_congr_left fun b _ => ?_)
  rw [← unseen, h b, unseen]

theorem Place.owned_eq_nil {p : Place} (h : p ∉ known) : p.owned = [] := by
  unfold owned
  split
  case h_7 => rfl
  all_goals exact absurd (by decide) h

/-- **One member, its own findings.** If the analysis of a text succeeds, so does that of every text
that differs from it in one member, and the new report differs from the old one only in what that
member has a part in. -/
theorem confines_edit {text text' : String} {v w : Json} {p : Place} {config : Config}
    {report : Report} (before : Json.ofText text = .ok v) (after : Json.ofText text' = .ok w)
    (edit : p.Edit v w) (h : analyze text config = .ok report) :
    ∃ report', analyze text' config = .ok report' ∧ p.Confines report report' := by
  obtain ⟨members, flag, hread, hv, rfl⟩ := exists_of_analyze_eq_ok h
  cases before.symm.trans hread
  obtain ⟨flag', hw, kept⟩ := edit.flag hv
  refine ⟨w.report config flag', analyze_eq_report after hw config, ?_, ?_, ?_⟩
  · exact fun b owned => edit.inBucket hv hw kept config owned
  · intro none
    refine Json.summary_report_congr p fun b => edit.inBucket hv hw kept config ?_
    rw [none]
    exact List.not_mem_nil
  · intro unread
    have properties : p ≠ .workflow "properties" := fun e => unread (by rw [e]; decide)
    have categories : p ≠ .root "categories" := fun e => unread (by rw [e]; decide)
    have agree (b : Bucket) := edit.agreeOn hv hw (b := b)
      (by rw [Place.owned_eq_nil unread]; exact List.not_mem_nil) fun h => categories h.1
    rw [kept properties, Json.report, Json.report, Document.findings_congr agree]

/-- An atomic action whose workflow has these members besides its properties. -/
def atomicWith (members : Members Json) : Json :=
  .obj [("workflow",
    .obj (("properties", .obj [("atomic", .obj [("is_atomic", .bool true)])]) :: members))]

/-- To take the variables out of the workflow is an edit at their place. -/
theorem edit_atomicWith (v : Json) :
    (Place.workflow "variables").Edit (atomicWith [("variables", v)]) (atomicWith []) := by
  refine ⟨Json.equalBut_put "workflow" _ _, ⟨_, _, rfl, rfl, ?_⟩, fun other => absurd other (by decide)⟩
  exact Json.equalBut_erase "variables" _

theorem confines_edit_atomicWith :
    (Place.workflow "variables").Edit (atomicWith [("variables", .null)]) (atomicWith []) ∧
    ∃ report report', analyze (atomicWith [("variables", .null)]).compact .builtIn = .ok report ∧
      analyze (atomicWith []).compact .builtIn = .ok report' ∧
      (Place.workflow "variables").Confines report report' := by
  have before : Json.ofText (atomicWith [("variables", .null)]).compact =
      .ok (atomicWith [("variables", .null)]) := by
    rw [Json.ofText_compact]
    rfl
  have after : Json.ofText (atomicWith []).compact = .ok (atomicWith []) := by
    rw [Json.ofText_compact]
    rfl
  have analyzed := analyze_eq_report before rfl .builtIn
  obtain ⟨report', analyzed', confined⟩ := confines_edit before after (edit_atomicWith .null) analyzed
  exact ⟨edit_atomicWith .null, _, report', analyzed, analyzed', confined⟩

end WorkflowLint
