import WorkflowLint.CommandLine.Run
import WorkflowLint.Proofs.Json.RoundTrip
import WorkflowLint.Proofs.Report.Summary

/-!
# The report as JSON, read back

A reader of reports takes the JSON form apart again: every bucket is known by its key, every severity
by its name, and a finding without a member for its detail has none (`Report.ofJson?_toJson`). The
texts that are written for a report mean just that form, so no two reports have the same text
(`json_faithful`).
-/

set_option autoImplicit false

namespace WorkflowLint

/-- The severity with this name. -/
def Severity.ofName? : String → Option Severity
  | "success" => some .success
  | "info" => some .info
  | "warning" => some .warning
  | "error" => some .error
  | _ => none

/-- The bucket with this key. -/
def Bucket.ofKey? : String → Option Bucket
  | "properties" => some .properties
  | "variables" => some .variables
  | "triggers" => some .triggers
  | "targets" => some .targets
  | "activities" => some .activities
  | "atomics" => some .atomics
  | "fun" => some .statistics
  | _ => none

/-- The count under a key. -/
def Members.count? (members : Members Json) (key : String) : Option Nat :=
  match members.lookup key with
  | some (.num (.int (.ofNat n))) => some n
  | _ => none

/-- The string under a key that may be missing; `none` if something else stands there. -/
def Members.optional? (members : Members Json) (key : String) : Option (Option String) :=
  match members.lookup key with
  | none => some none
  | some (.str s) => some (some s)
  | some _ => none

/-! ### A reader of reports -/

def Finding.ofJson? (v : Json) : Option Finding := do
  let members ← v.members?
  let code ← Members.string? members "code"
  let severity ← Severity.ofName? (← Members.string? members "severity")
  let title ← Members.string? members "title"
  let description ← Members.string? members "description"
  let moreInfo ← Members.optional? members "moreInfo"
  return ⟨code, severity, title, description, moreInfo⟩

/-- A section, from a member that is named for its bucket. -/
def Sections.ofMember? (m : String × Json) : Option (Bucket × List Finding) := do
  let bucket ← Bucket.ofKey? m.1
  let findings ← (← m.2.items?).mapM Finding.ofJson?
  return (bucket, findings)

def Summary.ofJson? (v : Json) : Option Summary := do
  let members ← v.members?
  let success ← Members.count? members "success"
  let info ← Members.count? members "info"
  let warning ← Members.count? members "warning"
  let error ← Members.count? members "error"
  return ⟨success, info, warning, error⟩

def Report.ofJson? (v : Json) : Option Report := do
  let members ← v.members?
  let sections ← (← (← members.lookup "buckets").members?).mapM Sections.ofMember?
  let summary ← Summary.ofJson? (← members.lookup "summary")
  return ⟨sections, summary⟩

theorem Severity.ofName?_name (s : Severity) : ofName? s.name = some s := by
  cases s <;> rfl

theorem Bucket.ofKey?_key (b : Bucket) : ofKey? b.key = some b := by
  cases b <;> rfl

theorem mapM_map_eq_some {α β : Type} {write : α → β} {read : β → Option α}
    (h : ∀ a, read (write a) = some a) (list : List α) : (list.map write).mapM read = some list := by
  induction list with
  | nil => rfl
  | cons a rest ih =>
    rw [List.map_cons, List.mapM_cons, h, ih]
    rfl

theorem Finding.ofJson?_toJson (f : Finding) : ofJson? f.toJson = some f := by
  obtain ⟨code, severity, title, description, moreInfo⟩ := f
  have named := severity.ofName?_name
  cases moreInfo with
  | none =>
    show (Severity.ofName? severity.name).bind _ = _
    rw [named]
    rfl
  | some text =>
    show (Severity.ofName? severity.name).bind _ = _
    rw [named]
    rfl

theorem Sections.ofMember?_toMember (s : Bucket × List Finding) :
    ofMember? (s.1.key, .arr (s.2.map Finding.toJson)) = some s := by
  have findings := mapM_map_eq_some Finding.ofJson?_toJson s.2
  simp only [ofMember?, Bucket.ofKey?_key, Json.items?, Option.bind_eq_bind, Option.bind_some, findings]
  rfl

theorem Summary.ofJson?_toJson (s : Summary) : ofJson? s.toJson = some s :=
  rfl

/-- The report is recovered from its JSON form. -/
theorem Report.ofJson?_toJson (r : Report) : ofJson? r.toJson = some r := by
  have sections := mapM_map_eq_some Sections.ofMember?_toMember r.sections
  have summary := Summary.ofJson?_toJson r.summary
  have buckets : r.toMembers.lookup "buckets" = some r.sections.toJson := rfl
  have counts : r.toMembers.lookup "summary" = some r.summary.toJson := rfl
  simp only [ofJson?, toJson, Json.members?, Option.bind_eq_bind, Option.bind_some, buckets, counts,
    Sections.toJson, sections, summary]
  rfl

/-! ### The texts of a report -/

open Json

theorem Finding.exact_toJson (f : Finding) : Exact 1 f.toJson := by
  refine .obj fun m hm => ?_
  have text : ∃ s, m.2 = .str s := by
    obtain ⟨code, severity, title, description, moreInfo⟩ := f
    cases moreInfo <;>
      simp only [List.append_nil, List.cons_append, List.nil_append, List.mem_cons,
        List.not_mem_nil, or_false] at hm <;> rcases hm with rfl | rfl | rfl | rfl | rfl <;>
      exact ⟨_, rfl⟩
  obtain ⟨s, hs⟩ := text
  rw [hs]
  exact .str s

theorem Sections.exact_toJson (sections : Sections) : Exact 3 sections.toJson := by
  refine .obj fun m hm => ?_
  obtain ⟨s, -, rfl⟩ := List.mem_map.1 hm
  refine .arr fun v hv => ?_
  obtain ⟨f, -, rfl⟩ := List.mem_map.1 hv
  exact f.exact_toJson

theorem Summary.exact_toJson {s : Summary} (fits : ∀ severity, s.get severity < 2 ^ 64) :
    Exact 1 s.toJson := by
  refine .obj fun m hm => ?_
  obtain ⟨severity, -, rfl⟩ := List.mem_map.1 hm
  have count := fits severity
  exact .int (by omega) (by omega)

theorem Report.exact_toJson {r : Report} (fits : ∀ severity, r.summary.get severity < 2 ^ 64) :
    Exact nestingLimit r.toJson := by
  have inside : Exact 4 r.toJson := by
    refine .obj fun m hm => ?_
    simp only [toMembers, List.mem_cons, List.not_mem_nil, or_false] at hm
    rcases hm with rfl | rfl
    · exact r.sections.exact_toJson
    · exact (Summary.exact_toJson fits).mono (by decide)
  exact inside.mono (by decide)

/-- No severity is counted more often than there are findings. -/
theorem Report.get_summary_le (pushes : Pass) (s : Severity) :
    (ofPushes pushes).summary.get s ≤ pushes.length := by
  simp only [get_summary_ofPushes, inBucket_ofPushes]
  rw [Pass.sum_count_inBucket, ← List.length_map (f := Prod.snd)]
  exact List.countP_le_length

namespace Report

/-- The JSON texts of a report: compact, pretty, and as the command line prints it. -/
def jsonTexts (r : Report) : List String :=
  [r.toJson.compact, r.toJson.pretty, CommandLine.deliver .json r]

/-- Every JSON text of a report means its JSON form. -/
theorem ofText_of_mem_jsonTexts {pushes : Pass} (fits : pushes.length < 2 ^ 64) {text : String}
    (h : text ∈ (ofPushes pushes).jsonTexts) : Json.ofText text = .ok (ofPushes pushes).toJson := by
  have exact : Exact nestingLimit (ofPushes pushes).toJson :=
    exact_toJson fun s => Nat.lt_of_le_of_lt (get_summary_le pushes s) fits
  simp only [jsonTexts, List.mem_cons, List.not_mem_nil, or_false] at h
  rcases h with rfl | rfl | rfl
  · exact ofText_compact_of_exact exact
  · have none : Blank "".toList := fun _ h => absurd h List.not_mem_nil
    have read := ofText_pretty_of_exact exact none
    rwa [String.append_empty] at read
  · have feed : Blank "\n".toList := by
      intro c hc
      rw [List.mem_singleton.1 hc]
      rfl
    exact ofText_pretty_of_exact exact feed

/-- **The JSON output is faithful.** All texts of a report are read as the same value, and from it the
report is recovered; so two reports that share a text are the same. A count of findings is taken to be
a word of 64 bits. -/
theorem json_faithful {pushes : Pass} (fits : pushes.length < 2 ^ 64) :
    (∃ v, (∀ text ∈ (ofPushes pushes).jsonTexts, Json.ofText text = .ok v) ∧
      ofJson? v = some (ofPushes pushes)) ∧
    ∀ pushes' : Pass, pushes'.length < 2 ^ 64 → ∀ text ∈ (ofPushes pushes).jsonTexts,
      text ∈ (ofPushes pushes').jsonTexts → ofPushes pushes = ofPushes pushes' := by
  refine ⟨⟨_, fun text => ofText_of_mem_jsonTexts fits, ofJson?_toJson _⟩, ?_⟩
  intro pushes' fits' text mem mem'
  have read := ofText_of_mem_jsonTexts fits mem
  rw [ofText_of_mem_jsonTexts fits' mem'] at read
  have recovered := ofJson?_toJson (ofPushes pushes)
  rw [← Except.ok.inj read, ofJson?_toJson] at recovered
  exact (Option.some.inj recovered).symm

/-- Findings with texts of every kind of escape, and one with a detail. -/
def escaping : Pass :=
  [(.statistics, Finding.info "STAT001" "\"\\/" "\x08\x0c\n\r\t"),
    (.properties, (Finding.warning "PROP001" "\x00\x1f" "é").withMoreInfo "\x7b\x7d[],:")]

theorem json_faithful_escaping :
    escaping.length < 2 ^ 64 ∧
      ∃ v, (∀ text ∈ (ofPushes escaping).jsonTexts, Json.ofText text = .ok v) ∧
        ofJson? v = some (ofPushes escaping) := by
  have fits : escaping.length < 2 ^ 64 := by decide
  exact ⟨fits, (json_faithful fits).1⟩

end Report

end WorkflowLint
