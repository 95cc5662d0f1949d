import WorkflowLint.Proofs.Json.RoundTrip
import WorkflowLint.Proofs.Naming.Ascii
import WorkflowLint.Proofs.Rules.Variables

/-!
# Names in reports

Which names a report lets pass, and what becomes of a name that is replaced by the one suggested for
it. To follow the advice need not be the end of it (`Naming.FinalAdvice`): nothing may be left to
suggest, the suggestion may start with a digit again, and the case of some letters outside ASCII
changes a second time.
-/

set_option autoImplicit false

namespace WorkflowLint

open Naming Text

/-! ### Names that pass -/

/-- The findings on the variables around a declaration, and those on itself. -/
theorem Json.inBucket_variables_append {v : Json} {before behind : List Json} {w : Json}
    (declared : v.variables? = some (before ++ w :: behind)) (config : Config) (flag : Bool) :
    (v.report config flag).inBucket .variables =
      before.flatMap (Declaration.findings config) ++ Declaration.findings config w ++
        (behind.flatMap (Declaration.findings config) ++ [v.globals]) := by
  rw [v.inBucket_variables_report, declared]
  simp only [List.flatMap_append, List.flatMap_cons, List.append_assoc]

/-- **The names that pass.** A complete variable with an ASCII name gets no warning about it exactly
if the name consists of capitalised words with one blank between two of them, or of words spelled as
suggested with one space between two of them and no digit in front. -/
theorem passing_names_of_report {text : String} {config : Config} {report : Report} {v w : Json}
    {before behind : List Json} (h : analyze text config = .ok report)
    (read : Json.ofText text = .ok v) (declared : v.variables? = some (before ++ w :: behind))
    (complete : w.missing = []) (ascii : IsAscii (Declaration.text w "name").toList) :
    report.inBucket .variables =
      before.flatMap (Declaration.findings config) ++ Declaration.findings config w ++
        (behind.flatMap (Declaration.findings config) ++ [v.globals]) ∧
    ((∀ f ∈ Declaration.findings config w, f.code ≠ "VAR003") ↔
      Conventional (Declaration.text w "name").toList ∨
        WellSpelled config (Declaration.text w "name")) ∧
    (StartsWithDigit (Declaration.text w "name") →
      ∃ f ∈ Declaration.findings config w, f.code = "VAR003") := by
  obtain ⟨members, flag, read', -, rfl⟩ := exists_of_analyze_eq_ok h
  cases read.symm.trans read'
  have passes : (∀ f ∈ Declaration.findings config w, f.code ≠ "VAR003") ↔ _ :=
    Declaration.code_ne_misnamed_iff complete
  have named : Declaration.text w "name" ≠ "" := ((Declaration.missing_eq_nil_iff w).1 complete).1
  refine ⟨Json.inBucket_variables_append declared config flag, ?_, fun digit => ?_⟩
  · rw [passes, passes_iff_of_ascii named ascii]
  · by_contra none
    refine not_passes_of_startsWithDigit digit (passes.1 fun f mem code => none ⟨f, mem, code⟩)

/-- An atomic action with one variable, complete as long as it has a name. -/
def declaring (name : String) : Json :=
  .obj [("properties", .obj [("name", .str name), ("scope", .str "local"),
    ("description", .str "The order to look up")])]

def oneVariable (name : String) : Json := atomicWith [("variables", .arr [declaring name])]

theorem ofText_oneVariable (name : String) :
    Json.ofText (oneVariable name).compact = .ok (oneVariable name) := by
  apply Json.ofText_compact_of_exact
  simp [oneVariable, atomicWith, declaring, Json.nestingLimit]

theorem analyze_oneVariable (name : String) (config : Config) :
    analyze (oneVariable name).compact config = .ok ((oneVariable name).report config true) :=
  analyze_eq_report (ofText_oneVariable name) rfl config

theorem passing_names_of_report_oneVariable :
    (oneVariable "Order ID").variables? = some ([] ++ declaring "Order ID" :: []) ∧
      (declaring "Order ID").missing = [] ∧
      IsAscii (Declaration.text (declaring "Order ID") "name").toList ∧
    ∃ report, analyze (oneVariable "Order ID").compact .builtIn = .ok report ∧
      report.inBucket .variables =
        [].flatMap (Declaration.findings .builtIn) ++
          Declaration.findings .builtIn (declaring "Order ID") ++
          ([].flatMap (Declaration.findings .builtIn) ++ [(oneVariable "Order ID").globals]) ∧
      ((∀ f ∈ Declaration.findings .builtIn (declaring "Order ID"), f.code ≠ "VAR003") ↔
        Conventional (Declaration.text (declaring "Order ID") "name").toList ∨
          WellSpelled .builtIn (Declaration.text (declaring "Order ID") "name")) ∧
      (StartsWithDigit (Declaration.text (declaring "Order ID") "name") →
        ∃ f ∈ Declaration.findings .builtIn (declaring "Order ID"), f.code = "VAR003") := by
  have declared : (oneVariable "Order ID").variables? =
      some ([] ++ declaring "Order ID" :: []) := rfl
  have complete : (declaring "Order ID").missing = [] := by decide +kernel
  have letters : (Declaration.text (declaring "Order ID") "name").toList.all
      (fun c => decide (c.toNat < 128)) = true := by
    decide +kernel
  have ascii : IsAscii (Declaration.text (declaring "Order ID") "name").toList :=
    fun c hc => of_decide_eq_true (List.all_eq_true.1 letters c hc)
  have analyzed := analyze_oneVariable "Order ID" .builtIn
  exact ⟨declared, complete, ascii, _, analyzed,
    passing_names_of_report analyzed (ofText_oneVariable _) declared complete ascii⟩

/-! ### Following the advice -/

namespace Declaration

/-- The second declaration is the first one with this text for its name. -/
structure Renamed (name : String) (w w' : Json) : Prop where
  name : w'.at? ["properties", "name"] = some (.str name)
  others : ∀ key, key ≠ "name" → w'.at? ["properties", key] = w.at? ["properties", key]

/-- The declaration gets the warning that suggests this name. -/
def Advises (config : Config) (w : Json) (name : String) : Prop :=
  ∃ f ∈ findings config w, f.code = "VAR003" ∧
    f.moreInfo = some ("Current Name: " ++ text w "name" ++ "\nSuggested Name: " ++ name)

theorem Renamed.text_name {name : String} {w w' : Json} (h : Renamed name w w') :
    text w' "name" = name := by
  rw [text, h.name]
  rfl

theorem Renamed.text_of_ne {name : String} {w w' : Json} (h : Renamed name w w') {key : String}
    (other : key ≠ "name") : text w' key = text w key := by
  rw [text, h.others key other, text]

/-- Only complete declarations get advice, and it is the suggestion for their name. -/
theorem Advises.spec {config : Config} {w : Json} {name : String} (h : Advises config w name) :
    w.missing = [] ∧ name = suggest config (text w "name") := by
  obtain ⟨f, mem, code, info⟩ := h
  obtain ⟨-, rfl⟩ | ⟨complete, ⟨-, rfl⟩ | ⟨-, rfl⟩ | rfl⟩ := mem_findings_iff.1 mem
  · exact absurd (code_lacking _ ▸ code) (by decide)
  · exact absurd (code_tooShort config w ▸ code) (by decide)
  · exact ⟨complete, (String.append_right_inj _).1 (Option.some.inj info).symm⟩
  · exact absurd (code_listed w ▸ code) (by decide)

end Declaration

/-- **Following the advice.** If a variable is given the name that is suggested for it and nothing
else in the document is changed, then it is neither incomplete nor in need of another name exactly if
the advice was final. For an ASCII name that is so unless nothing or a digit in front is suggested. -/
theorem advice_of_report {text text' : String} {config : Config} {report : Report} {v v' w w' : Json}
    {before behind : List Json} {name : String} (h : analyze text config = .ok report)
    (read : Json.ofText text = .ok v) (read' : Json.ofText text' = .ok v')
    (edit : (Place.workflow "variables").Edit v v')
    (declared : v.variables? = some (before ++ w :: behind))
    (declared' : v'.variables? = some (before ++ w' :: behind))
    (advised : Declaration.Advises config w name) (renamed : Declaration.Renamed name w w') :
    ∃ report', analyze text' config = .ok report' ∧
      report'.inBucket .variables =
        before.flatMap (Declaration.findings config) ++ Declaration.findings config w' ++
          (behind.flatMap (Declaration.findings config) ++ [v'.globals]) ∧
      ((∀ f ∈ Declaration.findings config w', f.code ≠ "VAR001" ∧ f.code ≠ "VAR003") ↔
        FinalAdvice config (Declaration.text w "name")) ∧
      (IsAscii (Declaration.text w "name").toList →
        (FinalAdvice config (Declaration.text w "name") ↔
          ∃ c ∈ name.toList.head?, c.isDigit = false)) := by
  obtain ⟨members, flag, hread, hv, rfl⟩ := exists_of_analyze_eq_ok h
  cases read.symm.trans hread
  obtain ⟨flag', hv', -⟩ := edit.flag hv
  refine ⟨v'.report config flag', analyze_eq_report read' hv' config,
    Json.inBucket_variables_append declared' config flag', ?_⟩
  obtain ⟨complete, rfl⟩ := advised.spec
  refine ⟨?_, finalAdvice_iff_of_ascii⟩
  have filled : w'.missing = [] ↔ suggest config (Declaration.text w "name") ≠ "" := by
    have texts := (Declaration.missing_eq_nil_iff w).1 complete
    rw [Declaration.missing_eq_nil_iff, renamed.text_name, renamed.text_of_ne (by decide),
      renamed.text_of_ne (by decide)]
    exact and_iff_left texts.2
  rw [finalAdvice_iff, ← filled]
  simp only [forall_and, Declaration.code_ne_lacking_iff]
  refine and_congr_right fun complete' => ?_
  rw [Declaration.code_ne_misnamed_iff complete', renamed.text_name]

theorem edit_oneVariable (name name' : String) :
    (Place.workflow "variables").Edit (oneVariable name) (oneVariable name') := by
  refine ⟨Json.equalBut_put "workflow" _ _, ⟨_, _, rfl, rfl, ?_⟩, fun other => absurd other (by decide)⟩
  exact Json.equalBut_put "variables" _ _

theorem renamed_declaring (name name' : String) :
    Declaration.Renamed name' (declaring name) (declaring name') := by
  refine ⟨rfl, fun key other => ?_⟩
  simp [declaring, Json.at?, Json.get?, Json.members?, lookup_cons_ite, other]

theorem advice_of_report_oneVariable :
    (Place.workflow "variables").Edit (oneVariable "123 order id") (oneVariable "Order ID") ∧
      Declaration.Advises .builtIn (declaring "123 order id") "Order ID" ∧
      Declaration.Renamed "Order ID" (declaring "123 order id") (declaring "Order ID") ∧
    ∃ report', analyze (oneVariable "Order ID").compact .builtIn = .ok report' ∧
      report'.inBucket .variables =
        [].flatMap (Declaration.findings .builtIn) ++
          Declaration.findings .builtIn (declaring "Order ID") ++
          ([].flatMap (Declaration.findings .builtIn) ++ [(oneVariable "Order ID").globals]) ∧
      ((∀ f ∈ Declaration.findings .builtIn (declaring "Order ID"),
          f.code ≠ "VAR001" ∧ f.code ≠ "VAR003") ↔
        FinalAdvice .builtIn (Declaration.text (declaring "123 order id") "name")) ∧
      (IsAscii (Declaration.text (declaring "123 order id") "name").toList →
        (FinalAdvice .builtIn (Declaration.text (declaring "123 order id") "name") ↔
          ∃ c ∈ "Order ID".toList.head?, c.isDigit = false)) := by
  have advised : Declaration.Advises .builtIn (declaring "123 order id") "Order ID" := by
    unfold Declaration.Advises
    decide +kernel
  have edit := edit_oneVariable "123 order id" "Order ID"
  have renamed := renamed_declaring "123 order id" "Order ID"
  exact ⟨edit, advised, renamed, advice_of_report (analyze_oneVariable _ .builtIn)
    (ofText_oneVariable _) (ofText_oneVariable _) edit rfl rfl advised renamed⟩

/-- The advice for a name can be followed in vain: without its digits in front the name starts with a
digit again, and again another name is suggested. -/
theorem advice_in_vain :
    Json.ofText (oneVariable "1 2x").compact = .ok (oneVariable "1 2x") ∧
    Json.ofText (oneVariable "2x").compact = .ok (oneVariable "2x") ∧
    (Place.workflow "variables").Edit (oneVariable "1 2x") (oneVariable "2x") ∧
    (oneVariable "1 2x").variables? = some [declaring "1 2x"] ∧
    (oneVariable "2x").variables? = some [declaring "2x"] ∧
    Declaration.Advises .builtIn (declaring "1 2x") "2x" ∧
    Declaration.Renamed "2x" (declaring "1 2x") (declaring "2x") ∧
    (∃ report, analyze (oneVariable "1 2x").compact .builtIn = .ok report) ∧
    ∃ report', analyze (oneVariable "2x").compact .builtIn = .ok report' ∧
      ∃ f ∈ report'.inBucket .variables, f.code = "VAR003" := by
  have advised : Declaration.Advises .builtIn (declaring "1 2x") "2x" := by
    unfold Declaration.Advises
    decide +kernel
  have again : ∃ f ∈ ((oneVariable "2x").report .builtIn true).inBucket .variables,
      f.code = "VAR003" := by
    rw [Json.inBucket_variables_report]
    decide +kernel
  exact ⟨ofText_oneVariable _, ofText_oneVariable _, edit_oneVariable _ _, rfl, rfl, advised,
    renamed_declaring _ _, ⟨_, analyze_oneVariable _ .builtIn⟩, _, analyze_oneVariable _ .builtIn,
    again⟩

/-- Nothing is left of a name, a digit is in front again, the upper case of a letter is two letters,
and a letter outside ASCII has one of a fixed word for its upper case. -/
example : ["7", "1 2x", "ß", "ıd é"].map (suggest .builtIn) = ["", "2x", "SS", "Id É"] ∧
    ["", "2x", "SS", "Id É"].map (suggest .builtIn) = ["", "X", "Ss", "ID É"] := by
  decide +kernel

end WorkflowLint
