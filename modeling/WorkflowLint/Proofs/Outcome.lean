import WorkflowLint.Analysis
import WorkflowLint.Proofs.Document.Levels

/-!
# The outcome of an analysis

A text is refused for one of two reasons or gets a report (`analyze_cases`). Which of the three
happens is a matter of what the text says as JSON: the configuration has no part in it, and neither
has anything in the document but its four levels.
-/

set_option autoImplicit false

namespace WorkflowLint

open Json

/-- What the text of a document means: refused, or the value at its root. -/
theorem Document.ofText_eq_ok_iff (text : String) (d : Document) :
    Document.ofText text = .ok d ↔
      ∃ members, Json.ofText text = .ok (.obj members) ∧
        d = Document.ofMembers (Json.obj members).fields := by
  unfold Document.ofText
  cases h : Json.ofText text with
  | error e => simp
  | ok v =>
    simp only [Document.ofJson?, members?_settle]
    by_cases hv : v.isObject
    · obtain ⟨members, rfl⟩ := isObject_iff.1 hv
      simp [hv, eq_comm]
    · have : ∀ members, v ≠ .obj members := fun members e => hv (isObject_iff.2 ⟨members, e⟩)
      simp [hv, this]

theorem Document.phase_of_ofText_eq_error {text : String} {f : Failure}
    (h : Document.ofText text = .error f) : f.phase = .parse := by
  unfold Document.ofText at h
  split at h
  · cases h; rfl
  · split at h
    · cases h
    · cases h; rfl

theorem Document.ofText_eq_error_iff (text : String) :
    (∃ f, Document.ofText text = .error f) ↔ ∀ members, Json.ofText text ≠ .ok (.obj members) := by
  constructor
  · rintro ⟨f, hf⟩ members h
    have := (Document.ofText_eq_ok_iff text _).2 ⟨members, h, rfl⟩
    rw [hf] at this
    cases this
  · intro h
    cases hd : Document.ofText text with
    | error f => exact ⟨f, rfl⟩
    | ok d =>
      obtain ⟨members, hm, -⟩ := (Document.ofText_eq_ok_iff text d).1 hd
      exact absurd hm (h members)

/-- A text that can be read is analysed as the document it holds. -/
theorem analyze_of_read {text : String} {v : Json} (read : Json.ofText text = .ok v)
    (config : Config) :
    analyze text config =
      if v.isObject then (Document.ofMembers v.fields).report config
      else .error ⟨.parse, "Failed to parse workflow JSON: document root must be an object"⟩ := by
  unfold analyze Document.ofText Document.ofJson?
  rw [read]
  by_cases object : v.isObject
  · simp only [Json.members?_settle, if_pos object, Option.map_some]
  · simp only [Json.members?_settle, if_neg object, Option.map_none]

/-- The report on what a value describes, with the mode it states. -/
def Json.report (v : Json) (config : Config) (isAtomic : Bool) : Report :=
  Report.ofPushes ((Document.ofMembers v.fields).findings config (.ofBool isAtomic))

/-- A text is refused, or misses a level, or gets a report, under every configuration alike. -/
theorem analyze_cases (text : String) :
    (∃ f, f.phase = .parse ∧ (∀ members, Json.ofText text ≠ .ok (.obj members)) ∧
      ∀ config, analyze text config = .error f) ∨
    (∃ members gap, Json.ofText text = .ok (.obj members) ∧
      (Json.obj members).gap? = some gap ∧
      ∀ config, analyze text config = .error ⟨.shape, gap.message⟩) ∨
    (∃ members flag, Json.ofText text = .ok (.obj members) ∧ (Json.obj members).gap? = none ∧
      (Json.obj members).at? Gap.isAtomic.path = some (.bool flag) ∧
      ∀ config, analyze text config = .ok ((Json.obj members).report config flag)) := by
  cases hd : Document.ofText text with
  | error f =>
    refine .inl ⟨f, Document.phase_of_ofText_eq_error hd, (Document.ofText_eq_error_iff text).1 ⟨f, hd⟩, ?_⟩
    intro config
    rw [analyze, hd]
  | ok d =>
    obtain ⟨members, hm, rfl⟩ := (Document.ofText_eq_ok_iff text d).1 hd
    have spec := Document.mode?_fields_spec (.obj members)
    cases hmode : (Document.ofMembers (Json.obj members).fields).mode? with
    | error gap =>
      rw [hmode] at spec
      refine .inr (.inl ⟨members, gap, hm, spec, fun config => ?_⟩)
      simp only [analyze, hd, Document.report, hmode]
    | ok mode =>
      rw [hmode] at spec
      obtain ⟨filled, flag, hflag, rfl⟩ := spec
      refine .inr (.inr ⟨members, flag, hm, filled, hflag, fun config => ?_⟩)
      simp only [analyze, hd, Document.report, hmode, Json.report]

/-- The analysis behind a report: the object that was read and the mode it states. -/
theorem exists_of_analyze_eq_ok {text : String} {config : Config} {report : Report}
    (h : analyze text config = .ok report) :
    ∃ members flag, Json.ofText text = .ok (.obj members) ∧
      (Json.obj members).at? Gap.isAtomic.path = some (.bool flag) ∧
      report = (Json.obj members).report config flag := by
  rcases analyze_cases text with ⟨f, -, -, hf⟩ | ⟨members, gap, -, -, hf⟩ |
    ⟨members, flag, hread, -, hflag, hr⟩
  · rw [hf] at h
    cases h
  · rw [hf] at h
    cases h
  · rw [hr] at h
    cases h
    exact ⟨members, flag, hread, hflag, rfl⟩

/-- A text that holds no object is the only thing that cannot be read. -/
theorem analyze_unreadable_iff (text : String) (config : Config) :
    (∃ f, analyze text config = .error f ∧ f.code = "P001") ↔
      ∀ members, Json.ofText text ≠ .ok (.obj members) := by
  rcases analyze_cases text with ⟨f, hphase, hread, hf⟩ | ⟨members, gap, hread, -, hf⟩ |
    ⟨members, flag, hread, -, -, hr⟩
  · exact iff_of_true ⟨f, hf config, by rw [Failure.code, hphase]; rfl⟩ hread
  · refine iff_of_false ?_ fun h => h members hread
    rintro ⟨f, h, code⟩
    rw [hf] at h
    cases h
    exact absurd (show "S001" = "P001" from code) (by decide)
  · refine iff_of_false ?_ fun h => h members hread
    rintro ⟨f, h, -⟩
    rw [hr] at h
    cases h

/-- A document that is no workflow is refused for the first level that it misses. -/
theorem analyze_shapeless_iff (text : String) (config : Config) (message : String) :
    (∃ f, analyze text config = .error f ∧ f.code = "S001" ∧ f.message = message) ↔
      ∃ members gap, Json.ofText text = .ok (.obj members) ∧
        (Json.obj members).gap? = some gap ∧ message = gap.complaint := by
  rcases analyze_cases text with ⟨f, hphase, hread, hf⟩ | ⟨members, gap, hread, hgap, hf⟩ |
    ⟨members, flag, hread, hgap, -, hr⟩
  · refine iff_of_false ?_ fun ⟨members, _, h, _⟩ => hread members h
    rintro ⟨f', h, code, -⟩
    rw [hf] at h
    cases h
    rw [Failure.code, hphase] at code
    exact absurd code (by decide)
  · constructor
    · rintro ⟨f, h, -, rfl⟩
      rw [hf] at h
      cases h
      exact ⟨members, gap, hread, hgap, gap.message_eq_complaint⟩
    · rintro ⟨members', gap', hread', hgap', rfl⟩
      cases hread.symm.trans hread'
      cases hgap.symm.trans hgap'
      exact ⟨_, hf config, rfl, gap.message_eq_complaint⟩
  · refine iff_of_false ?_ ?_
    · rintro ⟨f, h, -⟩
      rw [hr] at h
      cases h
    · rintro ⟨members', gap, hread', hgap', -⟩
      cases hread.symm.trans hread'
      cases hgap.symm.trans hgap'

/-- Every workflow gets a report, whatever stands elsewhere in it. -/
theorem analyze_reports_iff (text : String) (config : Config) :
    (∃ report, analyze text config = .ok report) ↔
      ∃ members, Json.ofText text = .ok (.obj members) ∧ ∀ gap, (Json.obj members).fills gap := by
  rcases analyze_cases text with ⟨f, -, hread, hf⟩ | ⟨members, gap, hread, hgap, hf⟩ |
    ⟨members, flag, hread, hgap, -, hr⟩
  · refine iff_of_false ?_ fun ⟨members, h, _⟩ => hread members h
    rintro ⟨report, h⟩
    rw [hf] at h
    cases h
  · refine iff_of_false ?_ ?_
    · rintro ⟨report, h⟩
      rw [hf] at h
      cases h
    · rintro ⟨members', hread', fills⟩
      cases hread.symm.trans hread'
      have missed : (Json.obj members).fills gap = false := by simpa using List.find?_some hgap
      rw [fills gap] at missed
      cases missed
  · exact iff_of_true ⟨_, hr config⟩ ⟨members, hread, fills_of_gap?_eq_none hgap⟩

/-- A value in its compact form is read from the characters of that form. -/
theorem Json.ofText_compact (v : Json) :
    Json.ofText v.compact =
      Reader.whole (fun steps => Reader.value steps nestingLimit) v.render := by
  rw [Json.ofText, toList_compact]

/-- A document gets a report if its value is seen to be an object that fills all levels. -/
theorem exists_report_of_gap? {text : String} (config : Config)
    (h : (Json.ofText text).toOption.any fun v => v.isObject && v.gap?.isNone) :
    ∃ report, analyze text config = .ok report := by
  cases hv : Json.ofText text with
  | error e =>
    rw [hv] at h
    cases h
  | ok v =>
    rw [hv] at h
    simp only [Except.toOption, Option.any_some, Bool.and_eq_true, Option.isNone_iff_eq_none] at h
    obtain ⟨members, rfl⟩ := isObject_iff.1 h.1
    exact (analyze_reports_iff text config).2 ⟨members, hv, fills_of_gap?_eq_none h.2⟩

/-! ### What a failure says -/

namespace Failure

/-- A failure in words: the name and the code of its phase, and what went wrong. -/
def words (f : Failure) : String :=
  match f.phase with
  | .parse => "[Parse:P001] " ++ f.message
  | .shape => "[Structure:S001] " ++ f.message
  | .config => "[Config:C001] " ++ f.message

theorem display_eq_words (f : Failure) : f.display = f.words := by
  unfold display words code
  cases f.phase <;> exact congrArg (· ++ f.message) (by decide)

end Failure

/-- **Three outcomes**, and what decides between them. -/
theorem analyze_outcome (text : String) (config : Config) :
    ((∃ f, analyze text config = .error f ∧ f.code = "P001") ↔
      ∀ members, Json.ofText text ≠ .ok (.obj members)) ∧
    (∀ message, (∃ f, analyze text config = .error f ∧ f.code = "S001" ∧ f.message = message) ↔
      ∃ members gap, Json.ofText text = .ok (.obj members) ∧
        (Json.obj members).gap? = some gap ∧ message = gap.complaint) ∧
    ((∃ report, analyze text config = .ok report) ↔
      ∃ members, Json.ofText text = .ok (.obj members) ∧ ∀ gap, (Json.obj members).fills gap) ∧
    (∀ f, analyze text config = .error f → f.code = "P001" ∨ f.code = "S001") ∧
    ∀ config' f, analyze text config = .error f ↔ analyze text config' = .error f := by
  refine ⟨analyze_unreadable_iff text config, analyze_shapeless_iff text config,
    analyze_reports_iff text config, ?_, ?_⟩
  · intro f h
    rcases analyze_cases text with ⟨f', hphase, -, hf⟩ | ⟨members, gap, -, -, hf⟩ |
      ⟨members, flag, -, -, -, hr⟩
    · rw [hf] at h
      cases h
      exact .inl (by rw [Failure.code, hphase]; rfl)
    · rw [hf] at h
      cases h
      exact .inr rfl
    · rw [hr] at h
      cases h
  · intro config' f
    rcases analyze_cases text with ⟨_, _, _, hf⟩ | ⟨_, _, _, _, hf⟩ | ⟨_, _, _, _, _, hr⟩
    · rw [hf, hf]
    · rw [hf, hf]
    · rw [hr, hr]
      simp
end WorkflowLint
