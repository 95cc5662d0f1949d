import WorkflowLint.Log
import WorkflowLint.Proofs.Rules.Settings

/-!
# The log and the report

The log of an analysis and its report come from the same walk and the same rules, at different
moments. `Narration.Tells` is what the walk keeps up with every activity: the events so far are
those of the activities visited so far, numbered from 1 on. `Json.ToldBy` says what the log of a
report is in terms of the value that was read, and which findings of the report say the same
(`events_of_analysis`).
-/

set_option autoImplicit false

namespace WorkflowLint

/-! ### The walk -/

namespace Narration

/-- The narration has visited these activities, in this order. -/
structure Tells (visited : List Activity) (n : Narration) : Prop where
  records : Walk.Records visited n.walk
  told : n.told.reverse = (visited.zipIdx 1).flatMap fun p => Event.ofActivity p.2 p.1

theorem tells_start : Tells [] start := ⟨Walk.records_start, rfl⟩

/-- One more activity is told as the last, with the next number. -/
theorem Tells.enter {visited : List Activity} {n : Narration} (h : Tells visited n) (a : Activity) :
    Tells (visited ++ [a]) (n.enter a) where
  records := h.records.enter a
  told := by
    have count : (n.walk.enter a).count = 1 + visited.length := by
      rw [(h.records.enter a).count, List.length_append, List.length_singleton, Nat.add_comm]
    rw [Narration.enter]
    dsimp only
    rw [count, List.reverse_append, List.reverse_reverse, h.told, List.zipIdx_append,
      List.flatMap_append, List.zipIdx_singleton, List.flatMap_singleton]

mutual

theorem Tells.visit {visited : List Activity} {n : Narration} (h : Tells visited n) :
    ∀ node : Action, Tells (visited ++ node.preorder) (n.visit node)
  | ⟨activity, blocks, actions⟩ => by
    have below := ((h.enter activity).visitAll blocks).visitAll actions
    rw [List.append_assoc, List.append_assoc] at below
    exact below

theorem Tells.visitAll {visited : List Activity} {n : Narration} (h : Tells visited n) :
    ∀ forest : List Action, Tells (visited ++ Action.preorderAll forest) (n.visitAll forest)
  | [] => by
    rw [Action.preorderAll, List.append_nil]
    exact h
  | node :: rest => by
    have behind := (h.visit node).visitAll rest
    rw [List.append_assoc] at behind
    exact behind

end

end Narration

/-- The walk over a document tells of its activities. -/
theorem Document.tells_narration (d : Document) : d.narration.Tells d.activities :=
  Narration.tells_start.visitAll d.forest

/-! ### Entries -/

/-- An event as a log shows it. -/
structure Entry where
  level : Event.Level
  message : String
  fields : List (String × String)

def Event.entry (e : Event) : Entry := ⟨e.level, e.message, e.fields⟩

/-- The entries of the node that is visited as the one with this number. -/
def Node.entries (index : Nat) (node : Json) : List Entry :=
  ⟨.debug, "visiting action", [("action_type", (type? node).getD "<none>"),
    ("index", toString index), ("name", title node)]⟩ ::
  if baseType? node = some "subworkflow" then
    ⟨.debug, "subworkflow", [("continue_on_failure", toString (flag node "continue_on_failure")),
      ("name", title node)]⟩ ::
    if workflowId? node = none then
      [⟨.debug, "subworkflow has no workflow_id", [("name", title node)]⟩]
    else []
  else []

theorem Event.entries_ofActivity (index : Nat) (node : Json) :
    (ofActivity index (Activity.ofNode node)).map entry = Node.entries index node := by
  have continues : (Activity.ofNode node).continueOnFailure.isTruthy = _ :=
    Activity.isTruthy_property node "continue_on_failure"
  unfold ofActivity Node.entries Activity.isSubworkflow
  rw [Activity.baseType_ofNode, Activity.workflowId_ofNode, continues, Activity.type_ofNode,
    Activity.shownName_ofNode]
  by_cases sub : Node.baseType? node = some "subworkflow"
  · rw [if_pos sub, if_pos (beq_iff_eq.2 sub)]
    cases Node.workflowId? node <;> rfl
  · rw [if_neg sub, if_neg (fun h => sub (beq_iff_eq.1 h))]
    rfl

/-- What is told of the nodes of a document. -/
theorem Document.entries_narration (v : Json) :
    (Document.ofMembers v.fields).narration.told.reverse.map Event.entry =
      (v.actionNodes.zipIdx 1).flatMap fun p => Node.entries p.2 p.1 := by
  rw [(tells_narration _).told, activities_fields, List.zipIdx_map, List.flatMap_map,
    List.map_flatMap]
  simp only [Prod.map, id, Event.entries_ofActivity]

/-! ### Variables -/

/-- The required texts that a declaration does not have. -/
def Json.missing (declaration : Json) : List String :=
  ["name", "scope", "description"].filter fun key => !declaration.declares key

/-- The error on a declaration that lacks these texts. -/
def Rules.lacking (missing : List String) : Finding :=
  ⟨"VAR001", .error, "Variable Error", "One or more required properties are undefined",
    some ("Missing: " ++ ", ".intercalate missing)⟩

namespace Rules

/-- A text of a declaration is read as filled in if it is declared. -/
theorem isNone_nonEmpty?_declared (w p : Json) (key : String) (h : w.get? "properties" = some p) :
    (nonEmpty? ((p.get? key).bind Json.string?)).isNone = !w.declares key := by
  rw [← Option.not_isSome, isSome_nonEmpty?, Json.declares]
  simp [Json.at?, h]

theorem missingFields_settle (w : Json) :
    missingFields (Variable.ofJson? w.settle) = w.missing := by
  have undeclared (h : ∀ key, w.declares key = false) :
      missingFields none = w.missing := by
    simp [Json.missing, h, missingFields, requiredFields, nonEmpty?]
  rw [Variable.ofJson?_settle]
  cases h : w.get? "properties" with
  | none => exact undeclared fun key => by simp [Json.declares, Json.at?, h]
  | some p =>
    by_cases object : p.isObject
    · have filled := isNone_nonEmpty?_declared w p (h := h)
      rw [Option.filter_some, if_pos object]
      simp only [missingFields, requiredFields, Json.missing, Option.map_some, Option.bind_some,
        List.filter_cons, List.filter_nil, filled]
      cases w.declares "name" <;> cases w.declares "scope" <;> cases w.declares "description" <;>
        rfl
    · rw [Option.filter_some, if_neg object]
      exact undeclared fun key => by
        simp [Json.declares, Json.at?, h, Json.get?_of_not_isObject object]

theorem incomplete_settle (w : Json) : incomplete (Variable.ofJson? w.settle) = lacking w.missing := by
  rw [incomplete, missingFields_settle]
  exact Finding.withMoreInfo_of_ne_empty _ (Finding.append_ne_empty (by decide) _)

theorem isNone_declared (w : Json) :
    (Declared.ofVariable? (Variable.ofJson? w.settle)).isNone = !w.isComplete := by
  rw [← isSome_declared, Option.not_isSome]

/-- A declaration gets the error exactly if it lacks something. -/
theorem keeping_declaration_settle (config : Config) (w : Json) :
    keeping (· == "VAR001") (declaration config (Variable.ofJson? w.settle)) =
      if w.isComplete then [] else [lacking w.missing] := by
  have complete := isSome_declared w
  unfold declaration
  cases declared : Declared.ofVariable? (Variable.ofJson? w.settle) with
  | none =>
    rw [declared] at complete
    dsimp only
    rw [incomplete_settle, ← complete]
    rfl
  | some v =>
    rw [declared] at complete
    dsimp only
    rw [keeping_append, keeping_append, keeping_eq_nil rfl code_of_mem_shortDescription,
      keeping_eq_nil rfl code_of_mem_unconventionalName, ← complete]
    rfl

end Rules

/-- The events of the variables are those of the declarations that lack something. -/
theorem Event.ofVariables_fields (v : Json) :
    ofVariables (Document.ofMembers v.fields) =
      v.incomplete.map fun w => .incompleteVariable w.missing := by
  have declared := Document.present?_declared_fields v
  rw [Option.bind_map] at declared
  have listed : ((Document.ofMembers v.fields).workflow.present?.bind fun body =>
      body.declarations.present?).getD [] =
        (v.variables?.getD []).map fun w => Variable.ofJson? w.settle := by
    refine (congrArg (fun vs => Option.getD vs []) declared).trans ?_
    cases v.variables? <;> rfl
  unfold ofVariables Json.incomplete
  dsimp only
  rw [listed, List.filter_map, List.map_map]
  simp only [Function.comp_def, Rules.isNone_declared, Rules.missingFields_settle]

/-- The errors on the variables are those on the declarations that lack something. -/
theorem Rules.keeping_declarations_fields (v : Json) (config : Config) :
    keeping (· == "VAR001") (Rules.declarations config (Document.ofMembers v.fields)) =
      v.incomplete.map fun w => Rules.lacking w.missing := by
  have others (declared : Option (Field (List (Option Variable)))) :
      keeping (· == "VAR001") [Rules.globalVariables declared] = [] := by
    unfold Rules.globalVariables
    split <;> rfl
  unfold Rules.declarations Json.incomplete
  dsimp only
  rw [Document.present?_declared_fields, keeping_append, others, List.append_nil]
  cases v.variables? with
  | none => rfl
  | some vs =>
    simp only [Option.map_some, Option.getD_some, keeping_flatMap, List.flatMap_map,
      Rules.keeping_declaration_settle]
    induction vs with
    | nil => rfl
    | cons w rest ih => cases h : w.isComplete <;> simp [h, ih]

/-! ### The log of a report -/

namespace Json

/-- The log of a report with this summary on a value that states this mode. -/
def log (v : Json) (isAtomic : Bool) (summary : Summary) : List Entry :=
  ⟨.debug, "workflow mode determined", [("is_atomic", toString isAtomic)]⟩ ::
    (v.incomplete.map fun w => ⟨.debug, "variable is missing required properties",
      [("missing",
        "[" ++ ", ".intercalate (w.missing.map fun name => "\"" ++ name ++ "\"") ++ "]")]⟩) ++
    ((v.actionNodes.zipIdx 1).flatMap fun p => Node.entries p.2 p.1) ++
    [⟨.debug, "action walk complete", [("actions", toString v.actionNodes.length),
        ("types", toString v.actionTypes.length)]⟩,
      ⟨.debug, "analysis complete", [("error", toString summary.error),
        ("info", toString summary.info), ("success", toString summary.success),
        ("warning", toString summary.warning)]⟩]

/-- The log and the report say the same of a value: what is logged of the variables is what the
errors on them say, one by one, and the numbers at the end of the walk are those of the
statistics. -/
structure ToldBy (v : Json) (isAtomic : Bool) (report : Report) (events : List Event) : Prop where
  entries : events.map Event.entry = v.log isAtomic report.summary
  incomplete : keeping (· == "VAR001") (report.inBucket .variables) =
    v.incomplete.map fun w => Rules.lacking w.missing
  statistics : (report.inBucket .statistics).map (fun f => (f.code, f.description)) =
    [("STAT001", toString v.actionNodes.length), ("STAT002", toString v.actionTypes.length)]

end Json

theorem Json.toldBy_report (v : Json) (config : Config) (isAtomic : Bool)
    (mode : (Document.ofMembers v.fields).mode? = .ok (.ofBool isAtomic)) :
    v.ToldBy isAtomic (v.report config isAtomic) ((Document.ofMembers v.fields).events config) where
  entries := by
    have nodes := Document.entries_narration v
    have told := Document.tells_narration (Document.ofMembers v.fields)
    obtain ⟨count, types⟩ := told.records.numbers
    unfold Document.events Json.log
    simp only [mode, List.map_cons, List.map_append, nodes, Event.ofVariables_fields, count, types,
      List.map_map, List.map_nil]
    rw [Event.entry, Event.fields, Mode.isAtomic_ofBool]
    rfl
  incomplete := by
    unfold Json.report
    rw [Document.inBucket_report, Document.bucketFindings, Rules.keeping_declarations_fields]
  statistics := by
    unfold Json.report
    rw [Document.inBucket_report, Document.bucketFindings, Rules.statistics_fields]
    rfl

/-- The log of a document is a warning with its failure, or goes with its report. -/
theorem Json.events_spec (v : Json) (config : Config) :
    match (Document.ofMembers v.fields).report config with
    | .error f => f.phase = .shape ∧ ((Document.ofMembers v.fields).events config).map Event.entry =
        [⟨.warn, "workflow structure not recognized", [("error", "[Structure:S001] " ++ f.message)]⟩]
    | .ok report => ∃ flag, v.at? Gap.isAtomic.path = some (.bool flag) ∧
        v.ToldBy flag report ((Document.ofMembers v.fields).events config) := by
  have spec := Document.mode?_fields_spec v
  unfold Document.report
  cases mode : (Document.ofMembers v.fields).mode? with
  | error gap =>
    refine ⟨rfl, ?_⟩
    rw [Document.events, mode, List.map_singleton, Event.entry, Event.fields,
      Failure.display_eq_words]
    rfl
  | ok stated =>
    rw [mode] at spec
    obtain ⟨-, flag, hflag, rfl⟩ := spec
    exact ⟨flag, hflag, v.toldBy_report config flag mode⟩

/-- **The log tells the story of the report.** A text that is no document leaves no log, one that is
no workflow leaves a warning with the failure. The log of a report has the mode, the variables that
lack something, the nodes in pre-order with their numbers, and the counts, and it agrees with the
report on all of these. -/
theorem events_of_analysis (text : String) (config : Config) :
    (∀ f, analyze text config = .error f → f.phase = .parse → events text config = []) ∧
    (∀ f, analyze text config = .error f → f.phase = .shape →
      (events text config).map Event.entry =
        [⟨.warn, "workflow structure not recognized",
          [("error", "[Structure:S001] " ++ f.message)]⟩]) ∧
    ∀ report, analyze text config = .ok report →
      ∃ members flag, Json.ofText text = .ok (.obj members) ∧
        (Json.obj members).at? Gap.isAtomic.path = some (.bool flag) ∧
        (Json.obj members).ToldBy flag report (events text config) := by
  unfold analyze events
  cases hd : Document.ofText text with
  | error e =>
    have parse := Document.phase_of_ofText_eq_error hd
    refine ⟨fun _ _ _ => rfl, ?_, fun _ h => nomatch h⟩
    rintro _ ⟨⟩ shape
    exact absurd (parse.symm.trans shape) (by decide)
  | ok d =>
    obtain ⟨members, hread, rfl⟩ := (Document.ofText_eq_ok_iff text d).1 hd
    have spec := (Json.obj members).events_spec config
    dsimp only
    cases hr : (Document.ofMembers (Json.obj members).fields).report config with
    | error f =>
      rw [hr] at spec
      refine ⟨?_, ?_, fun _ h => nomatch h⟩
      · rintro _ ⟨⟩ parse
        exact absurd (spec.1.symm.trans parse) (by decide)
      · rintro _ ⟨⟩ -
        exact spec.2
    | ok report =>
      rw [hr] at spec
      refine ⟨fun _ h => (nomatch h), fun _ h => (nomatch h), ?_⟩
      rintro _ ⟨⟩
      obtain ⟨flag, hflag, told⟩ := spec
      exact ⟨members, flag, hread, hflag, told⟩

/-- Two variables lack something; below a caller stands a subworkflow that does not say what it
calls, and a node of the same type follows. -/
def loggedWorkflow : Json :=
  .obj [("workflow", .obj [
    ("properties", .obj [("atomic", .obj [("is_atomic", .bool true)])]),
    ("variables", .arr [
      .obj [("properties", .obj [("name", .str "Order"), ("scope", .str "")])],
      .null,
      .obj [("properties", .obj [("name", .str "Order"), ("scope", .str "local"),
        ("description", .str "The order")])]]),
    ("actions", .arr [
      .obj [
        ("type", .str "call"), ("base_type", .str "subworkflow"),
        ("properties", .obj [("workflow_id", .str "7"), ("continue_on_failure", .num (.int 1))]),
        ("actions", .arr [.str "x", .obj [
          ("base_type", .str "subworkflow"),
          ("properties", .obj [("workflow_id", .num (.int 7)), ("display_name", .str "Lost")])]])],
      .obj [("type", .str "call")]])])]

example : (loggedWorkflow.log true ⟨0, 0, 0, 0⟩).dropLast.map (fun e => (e.message, e.fields)) =
    [("workflow mode determined", [("is_atomic", "true")]),
      ("variable is missing required properties", [("missing", "[\"scope\", \"description\"]")]),
      ("variable is missing required properties",
        [("missing", "[\"name\", \"scope\", \"description\"]")]),
      ("visiting action", [("action_type", "call"), ("index", "1"), ("name", "Unnamed Action")]),
      ("subworkflow", [("continue_on_failure", "true"), ("name", "Unnamed Action")]),
      ("visiting action", [("action_type", "<none>"), ("index", "2"), ("name", "Lost")]),
      ("subworkflow", [("continue_on_failure", "false"), ("name", "Lost")]),
      ("subworkflow has no workflow_id", [("name", "Lost")]),
      ("visiting action", [("action_type", "call"), ("index", "3"), ("name", "Unnamed Action")]),
      ("action walk complete", [("actions", "3"), ("types", "1")])] := by
  decide +kernel

theorem exists_report_loggedWorkflow :
    ∃ report, analyze loggedWorkflow.compact .builtIn = .ok report := by
  apply exists_report_of_gap?
  rw [Json.ofText_compact]
  decide +kernel

/-- No log for a list, a warning for an empty object, a log for a workflow. -/
theorem events_of_analysis_loggedWorkflow :
    events (Json.arr []).compact .builtIn = [] ∧
      (events (Json.obj []).compact .builtIn).map Event.entry =
        [⟨.warn, "workflow structure not recognized",
          [("error", "[Structure:S001] Invalid workflow structure: 'workflow' not found")]⟩] ∧
      ∃ report members flag, analyze loggedWorkflow.compact .builtIn = .ok report ∧
        Json.ofText loggedWorkflow.compact = .ok (.obj members) ∧
        (Json.obj members).at? Gap.isAtomic.path = some (.bool flag) ∧
        (Json.obj members).ToldBy flag report (events loggedWorkflow.compact .builtIn) := by
  have list : Json.ofText (Json.arr []).compact = .ok (.arr []) := by
    rw [Json.ofText_compact]
    rfl
  have object : Json.ofText (Json.obj []).compact = .ok (.obj []) := by
    rw [Json.ofText_compact]
    rfl
  refine ⟨?_, ?_, ?_⟩
  · exact (events_of_analysis _ .builtIn).1 _ (analyze_of_read list .builtIn) rfl
  · exact (events_of_analysis _ .builtIn).2.1 _ (analyze_of_read object .builtIn) rfl
  · obtain ⟨report, analyzed⟩ := exists_report_loggedWorkflow
    obtain ⟨members, flag, spec⟩ := (events_of_analysis _ .builtIn).2.2 report analyzed
    exact ⟨report, members, flag, analyzed, spec⟩

end WorkflowLint
