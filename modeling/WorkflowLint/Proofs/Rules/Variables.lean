import Mathlib.Data.List.Count
import WorkflowLint.Proofs.Document.Edits
import WorkflowLint.Proofs.Log

/-!
# Findings on the declared variables

`Declaration.findings` judges a declaration by what stands in its `properties`, whatever the rest of
the document holds. The variables of a report are these findings declaration by declaration, in the
order of the document, so a change to one declaration changes its own findings only.
-/

set_option autoImplicit false

namespace WorkflowLint

namespace Declaration

/-- The text under a key of the properties; empty if there is none. -/
def text (w : Json) (key : String) : String :=
  ((w.at? ["properties", key]).bind Json.string?).getD ""

def isRequired (w : Json) : Bool := (w.at? ["properties", "is_required"]).any Json.isTruthy

/-- The description is too short for the scope. -/
def tooShort (config : Config) (w : Json) : Finding :=
  ⟨"VAR002", .warning, "Variable: " ++ text w "name",
    "Variable description is too short for scope \"" ++ text w "scope" ++ "\" for variable: " ++
      text w "name",
    some ("The variable description should be at least " ++ toString config.minDescriptionLength ++
      " characters for the following scopes: " ++ ", ".intercalate config.descriptionScopes)⟩

/-- Another name is suggested. -/
def misnamed (config : Config) (w : Json) : Finding :=
  ⟨"VAR003", .warning, "Variable: " ++ text w "name",
    "Variable name does not follow the naming convention. " ++
      "Each word should start with a capital letter.",
    some ("Current Name: " ++ text w "name" ++ "\nSuggested Name: " ++
      Naming.suggest config (text w "name"))⟩

/-- The entry in the list of variables, under the name without the ASCII digits in front. -/
def listed (w : Json) : Finding :=
  ⟨"VAR004", .info, String.ofList ((text w "name").toList.dropWhile Char.isDigit),
    "Type: " ++ if text w "type" = "" then "unknown" else text w "type",
    some ("Description: " ++ text w "description" ++ "\nRequired: " ++
      if isRequired w then "Yes" else "No")⟩

/-- The findings on a declaration: that it lacks texts, or else what is wrong with them, and its
entry in the list. -/
def findings (config : Config) (w : Json) : List Finding :=
  if w.missing ≠ [] then [Rules.lacking w.missing]
  else
    (if text w "scope" ∈ config.descriptionScopes ∧
        (text w "description").length < config.minDescriptionLength then [tooShort config w]
      else []) ++
    (if Naming.followsConvention (text w "name") = false ∧
        Naming.suggest config (text w "name") ≠ text w "name" then [misnamed config w]
      else []) ++
    [listed w]

end Declaration

/-- Whether global variables were left in the document. -/
def Json.globals (v : Json) : Finding :=
  if v.hasGlobals then
    ⟨"VAR006", .error, "Global Variables", "Failed", some
      ("Global variables should not be used in workflows or atomic actions meant to be shared. " ++
        "Instead, use a \"Set Variables\" activity to copy global variables to local variables " ++
        "within the workflow. Before exporting, simply remove the global variables so the other " ++
        "user can select their own")⟩
  else
    ⟨"VAR006", .success, "Global Variables", "Passed",
      some "The workflow does not appear to be using any global variables"⟩

/-! ### One declaration -/

namespace Declaration

theorem declares_eq (w : Json) (key : String) : w.declares key = decide (text w key ≠ "") := by
  unfold Json.declares text
  cases w.at? ["properties", key] with
  | none => rfl
  | some x => cases x <;> rfl

theorem missing_eq_nil_iff (w : Json) :
    w.missing = [] ↔ text w "name" ≠ "" ∧ text w "scope" ≠ "" ∧ text w "description" ≠ "" := by
  simp [Json.missing, declares_eq]

end Declaration

namespace Rules

theorem nonEmpty?_eq (text : Option String) :
    nonEmpty? text = if text.getD "" = "" then none else some (text.getD "") := by
  cases text with
  | none => rfl
  | some s => by_cases h : s = "" <;> simp [nonEmpty?, h]

/-- A declaration is read as complete if it lacks nothing, with the texts that it holds. -/
theorem ofVariable?_settle (w : Json) :
    Declared.ofVariable? (Variable.ofJson? w.settle) =
      if w.missing = [] then
        some ⟨Declaration.text w "name", Declaration.text w "scope",
          Declaration.text w "description", nonEmpty? (some (Declaration.text w "type")),
          Declaration.isRequired w⟩
      else none := by
  rw [Variable.ofJson?_settle]
  cases h : w.get? "properties" with
  | none => simp [Declaration.missing_eq_nil_iff, Declaration.text, Json.at?, h, Declared.ofVariable?]
  | some p =>
    by_cases object : p.isObject
    · have read (key : String) : Declaration.text w key = ((p.get? key).bind Json.string?).getD "" := by
        simp [Declaration.text, Json.at?, h]
      have required : Declaration.isRequired w = (p.get? "is_required").any Json.isTruthy := by
        simp [Declaration.isRequired, Json.at?, h]
      rw [Option.filter_some, if_pos object]
      simp only [Declaration.missing_eq_nil_iff, Option.map_some, Declared.ofVariable?,
        Option.bind_eq_bind, Option.bind_some, nonEmpty?_eq, ← read,
        Members.isTruthy_property_fields, ← required]
      by_cases name : Declaration.text w "name" = ""
      · simp [name]
      · by_cases scope : Declaration.text w "scope" = ""
        · simp [name, scope]
        · by_cases description : Declaration.text w "description" = "" <;>
            simp [name, scope, description]
    · simp [Declaration.missing_eq_nil_iff, Declaration.text, Json.at?, h, Option.filter_some,
        object, Json.get?_of_not_isObject object, Declared.ofVariable?]

/-- The rule finds on a variable what its declaration shows. -/
theorem declaration_settle (config : Config) (w : Json) :
    declaration config (Variable.ofJson? w.settle) = Declaration.findings config w := by
  unfold declaration Declaration.findings
  rw [ofVariable?_settle]
  by_cases complete : w.missing = []
  · rw [if_pos complete, if_neg (not_not_intro complete)]
    have named : Naming.followsConvention (Declaration.text w "name") = false ∧
        Naming.suggest config (Declaration.text w "name") ≠ Declaration.text w "name" ↔
        ¬(Naming.followsConvention (Declaration.text w "name") = true ∨
          Naming.suggest config (Declaration.text w "name") = Declaration.text w "name") := by
      rw [not_or, Bool.not_eq_true]
    have type : (nonEmpty? (some (Declaration.text w "type"))).getD "unknown" =
        if Declaration.text w "type" = "" then "unknown" else Declaration.text w "type" := by
      rw [nonEmpty?_eq]
      by_cases none : Declaration.text w "type" = "" <;> simp [none]
    simp (disch := (repeat apply Finding.append_ne_empty); decide) only [shortDescription,
      Config.requiresLongDescription, List.contains_iff_mem, unconventionalName, listing, yesOrNo,
      Naming.stripLeadingDigits, type, named, ite_not, Finding.withMoreInfo_of_ne_empty]
    rfl
  · rw [if_neg complete, if_pos complete]
    exact congrArg (fun f => [f]) (incomplete_settle w)

theorem declarations_fields (config : Config) (v : Json) :
    declarations config (Document.ofMembers v.fields) =
      (match v.variables? with
        | some vs => vs.flatMap (Declaration.findings config)
        | none => [⟨"VAR005", .info, "Variables", "No variables defined", none⟩]) ++ [v.globals] := by
  have globals : globalVariables ((Document.ofMembers v.fields).workflow.present?.map
      WorkflowBody.declarations) = v.globals := by
    rw [globalVariables, Document.isNull_declared_fields, Json.globals]
    simp (disch := decide) only [Finding.withMoreInfo_of_ne_empty]
    rfl
  unfold declarations
  dsimp only
  rw [globals, Document.present?_declared_fields]
  cases v.variables? with
  | none => rfl
  | some vs => simp only [Option.map_some, List.flatMap_map, declaration_settle]

end Rules

/-! ### Codes -/

namespace Declaration

@[simp] theorem code_lacking (missing : List String) : (Rules.lacking missing).code = "VAR001" := rfl

@[simp] theorem code_tooShort (config : Config) (w : Json) : (tooShort config w).code = "VAR002" := rfl

@[simp] theorem code_misnamed (config : Config) (w : Json) : (misnamed config w).code = "VAR003" := rfl

@[simp] theorem code_listed (w : Json) : (listed w).code = "VAR004" := rfl

/-- A declaration gets either the error or an entry. -/
theorem countP_findings (config : Config) (w : Json) :
    (findings config w).countP (fun f => f.code == "VAR001") +
      (findings config w).countP (fun f => f.code == "VAR004") = 1 := by
  unfold findings
  split
  · simp
  · simp only [List.countP_append]
    split <;> split <;> simp

theorem countP_flatMap_findings (config : Config) (vs : List Json) :
    (vs.flatMap (findings config)).countP (fun f => f.code == "VAR001") +
      (vs.flatMap (findings config)).countP (fun f => f.code == "VAR004") = vs.length := by
  induction vs with
  | nil => rfl
  | cons w rest ih =>
    have first := countP_findings config w
    rw [List.flatMap_cons, List.countP_append, List.countP_append, List.length_cons]
    omega

/-- What can be found on a declaration, and when. -/
theorem mem_findings_iff {config : Config} {w : Json} {f : Finding} :
    f ∈ findings config w ↔
      (w.missing ≠ [] ∧ f = Rules.lacking w.missing) ∨
      (w.missing = [] ∧
        (((text w "scope" ∈ config.descriptionScopes ∧
            (text w "description").length < config.minDescriptionLength) ∧ f = tooShort config w) ∨
          ((Naming.followsConvention (text w "name") = false ∧
            Naming.suggest config (text w "name") ≠ text w "name") ∧ f = misnamed config w) ∨
          f = listed w)) := by
  unfold findings
  by_cases complete : w.missing = []
  · rw [if_neg (not_not_intro complete), List.mem_append, List.mem_append, List.mem_ite_nil_right,
      List.mem_ite_nil_right, List.mem_singleton, List.mem_singleton, List.mem_singleton, or_assoc]
    exact ⟨fun h => .inr ⟨complete, h⟩, fun h => h.elim (fun h => absurd complete h.1) And.right⟩
  · rw [if_pos complete, List.mem_singleton]
    exact ⟨fun h => .inl ⟨complete, h⟩, fun h => h.elim And.right fun h => absurd h.1 complete⟩

/-- Only a complete declaration is not told to lack anything. -/
theorem code_ne_lacking_iff (config : Config) (w : Json) :
    (∀ f ∈ findings config w, f.code ≠ "VAR001") ↔ w.missing = [] := by
  constructor
  · intro h
    by_contra lacks
    exact h _ (mem_findings_iff.2 (.inl ⟨lacks, rfl⟩)) rfl
  · intro complete f mem
    obtain ⟨lacks, -⟩ | ⟨-, ⟨-, rfl⟩ | ⟨-, rfl⟩ | rfl⟩ := mem_findings_iff.1 mem
    · exact absurd complete lacks
    all_goals simp

/-- The name of a complete declaration passes if it is conventional or its own suggestion. -/
theorem code_ne_misnamed_iff {config : Config} {w : Json} (complete : w.missing = []) :
    (∀ f ∈ findings config w, f.code ≠ "VAR003") ↔
      Naming.followsConvention (text w "name") = true ∨
        Naming.suggest config (text w "name") = text w "name" := by
  constructor
  · intro h
    by_contra other
    rw [not_or, Bool.not_eq_true] at other
    exact h _ (mem_findings_iff.2 (.inr ⟨complete, .inr (.inl ⟨other, rfl⟩)⟩)) rfl
  · intro passes f mem
    obtain ⟨lacks, -⟩ | ⟨-, ⟨-, rfl⟩ | ⟨⟨unconventional, other⟩, -⟩ | rfl⟩ := mem_findings_iff.1 mem
    · exact absurd complete lacks
    · simp
    · rw [unconventional] at passes
      exact absurd passes (not_or.2 ⟨Bool.false_ne_true, other⟩)
    · simp

end Declaration

/-! ### Reports -/

/-- The variables of the report are the findings on the declarations of the value, each for itself,
and one on global variables. -/
structure Json.DeclaredIn (v : Json) (config : Config) (report : Report) : Prop where
  inBucket : report.inBucket .variables =
    (match v.variables? with
      | some vs => vs.flatMap (Declaration.findings config)
      | none => [⟨"VAR005", .info, "Variables", "No variables defined", none⟩]) ++ [v.globals]
  /-- Every declaration gets an error or an entry. -/
  count : ∀ vs, v.variables? = some vs →
    (report.inBucket .variables).countP (fun f => f.code == "VAR001") +
      (report.inBucket .variables).countP (fun f => f.code == "VAR004") = vs.length
  /-- Whatever else is declared in the midst of the same declarations, of which there may be none,
  and whatever the rest of the other document is, the findings around it are the same. -/
  around : ∀ {text' : String} {v' : Json} {report' : Report} {before middle middle' behind : List Json},
    Json.ofText text' = .ok v' → analyze text' config = .ok report' →
    v.variables? = some (before ++ middle ++ behind) →
    v'.variables? = some (before ++ middle' ++ behind) →
    ∃ front back,
      report.inBucket .variables = front ++ middle.flatMap (Declaration.findings config) ++ back ∧
      report'.inBucket .variables = front ++ middle'.flatMap (Declaration.findings config) ++ back

@[simp] theorem Json.code_globals (v : Json) : v.globals.code = "VAR006" := by
  unfold globals
  split <;> rfl

theorem Json.inBucket_variables_report (v : Json) (config : Config) (flag : Bool) :
    (v.report config flag).inBucket .variables =
      (match v.variables? with
        | some vs => vs.flatMap (Declaration.findings config)
        | none => [⟨"VAR005", .info, "Variables", "No variables defined", none⟩]) ++ [v.globals] := by
  unfold Json.report
  rw [Document.inBucket_report, Document.bucketFindings, Rules.declarations_fields]

/-- Where a list of variables stands, no global variables were left. -/
theorem Json.globals_eq {v w : Json} {vs ws : List Json} (hv : v.variables? = some vs)
    (hw : w.variables? = some ws) : v.globals = w.globals := by
  have none {u : Json} {us : List Json} (hu : u.variables? = some us) : u.hasGlobals = false := by
    obtain ⟨x, hx, list⟩ := Option.bind_eq_some_iff.1 hu
    rw [hasGlobals, hx]
    cases x with
    | null => cases list
    | _ => rfl
  rw [globals, none hv, globals, none hw]

theorem Json.declaredIn_report (v : Json) (config : Config) (flag : Bool) :
    v.DeclaredIn config (v.report config flag) where
  inBucket := v.inBucket_variables_report config flag
  count := by
    intro vs declared
    rw [v.inBucket_variables_report, declared]
    have counted := Declaration.countP_flatMap_findings config vs
    simpa [List.countP_append, List.countP_cons] using counted
  around := by
    intro text' v' report' before middle middle' behind read analyzed declared declared'
    obtain ⟨members', flag', read', -, rfl⟩ := exists_of_analyze_eq_ok analyzed
    cases read.symm.trans read'
    refine ⟨before.flatMap (Declaration.findings config),
      behind.flatMap (Declaration.findings config) ++ [v.globals], ?_, ?_⟩
    · rw [v.inBucket_variables_report, declared]
      simp only [List.flatMap_append, List.append_assoc]
    · rw [Json.inBucket_variables_report, declared', ← globals_eq declared declared']
      simp only [List.flatMap_append, List.append_assoc]

/-- **Variables one by one.** The variables of a report are what each declaration shows by itself,
in the order of the document, so a declaration that is added, removed or broken has no part in what is
found on the others. -/
theorem variables_of_report {text : String} {config : Config} {report : Report}
    (h : analyze text config = .ok report) :
    ∃ members, Json.ofText text = .ok (.obj members) ∧
      (Json.obj members).DeclaredIn config report := by
  obtain ⟨members, flag, hread, -, rfl⟩ := exists_of_analyze_eq_ok h
  exact ⟨members, hread, (Json.obj members).declaredIn_report config flag⟩

/-- A variable of each kind: one with nothing to find, one that lacks two texts, one without an object
for its properties, one with a short description and a name to change, and no variable at all. -/
def mixedVariables : List Json :=
  [.obj [("properties", .obj [("name", .str "Order"), ("scope", .str "local"),
      ("description", .str "The order to look up"), ("type", .str "datatype.string")])],
    .obj [("properties", .obj [("name", .str ""), ("scope", .num (.int 1)),
      ("description", .str "x")])],
    .obj [("properties", .arr [])],
    .obj [("properties", .obj [("name", .str "12 order id"), ("scope", .str "input"),
      ("description", .str "short"), ("is_required", .bool true)])],
    .null]

example : (mixedVariables.map (Declaration.findings .builtIn)).map (List.map fun f =>
      (f.code, f.title, f.moreInfo)) =
    [[("VAR004", "Order", some "Description: The order to look up\nRequired: No")],
      [("VAR001", "Variable Error", some "Missing: name, scope")],
      [("VAR001", "Variable Error", some "Missing: name, scope, description")],
      [("VAR002", "Variable: 12 order id", some ("The variable description should be at least 10 " ++
          "characters for the following scopes: input, local, static")),
        ("VAR003", "Variable: 12 order id", some
          "Current Name: 12 order id\nSuggested Name: Order ID"),
        ("VAR004", " order id", some "Description: short\nRequired: Yes")],
      [("VAR001", "Variable Error", some "Missing: name, scope, description")]] := by
  decide +kernel

theorem exists_report_mixedVariables :
    ∃ report, analyze (atomicWith [("variables", .arr mixedVariables)]).compact .builtIn =
      .ok report := by
  apply exists_report_of_gap?
  rw [Json.ofText_compact]
  decide +kernel

theorem variables_of_report_mixedVariables :
    ∃ report members, analyze (atomicWith [("variables", .arr mixedVariables)]).compact .builtIn =
        .ok report ∧
      Json.ofText (atomicWith [("variables", .arr mixedVariables)]).compact = .ok (.obj members) ∧
      (Json.obj members).DeclaredIn .builtIn report := by
  obtain ⟨report, analyzed⟩ := exists_report_mixedVariables
  obtain ⟨members, read, declared⟩ := variables_of_report analyzed
  exact ⟨report, members, analyzed, read, declared⟩

end WorkflowLint
