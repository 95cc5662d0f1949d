import WorkflowLint.Proofs.Document.Rearrangement

/-!
# Findings on targets and their groups

`Group.findings` judges the targets of a group by what stands in their objects. The targets of a
report are these findings group by group, in the order of the document (`targets_of_report`). A group
is known by its key, and no key counts twice, so the default group is one at most.
-/

set_option autoImplicit false

namespace WorkflowLint

namespace Target

def type? (t : Json) : Option String := (t.get? "data_target_type").bind Json.string?

/-- The target has a type, and one that the default group may have. -/
def isDefault (config : Config) (t : Json) : Bool :=
  (type? t).any fun type => type ∈ config.defaultTargetTypes

def handPicked (title : String) : Finding :=
  ⟨"TGT002", .warning, title, "Should not contain manually selected targets", some
    ("In the target group configuration, you probably added a specific target manually. " ++
      "We don't recommend doing this unless you have a specific use case and suggest you " ++
      "consider using target group criteria instead")⟩

def otherType (config : Config) (title : String) (t : Json) : Finding :=
  ⟨"TGT003", .warning, title,
    "Non-default target type (" ++ (type? t).getD "unspecified" ++ ")", some
    ("By default, the Default TargetGroup doesn't contain target types besides " ++
      config.defaultTargetTypesLabel ++
      ". If you need additional target types for your workflow, the end user may need to " ++
      "add them to the target group configuration before running the workflow")⟩

/-- The findings on a target of the group with this identifier and title. -/
def findings (config : Config) (id title : String) (t : Json) : List Finding :=
  (if t.itemsAt "selected_target_ids" ≠ [] then [handPicked title] else []) ++
  (if id = config.defaultTargetGroupId ∧ isDefault config t = false then [otherType config title t]
    else [])

end Target

namespace Group

/-- A group is shown by its name, even an empty one, or else by its identifier. -/
def title (group : String × Json) : String :=
  "Target Group: " ++ ((group.2.get? "name").bind Json.string?).getD group.1

/-- The targets of a group: the objects in its list. -/
def targets (group : String × Json) : List Json := (group.2.itemsAt "targets").filter Json.isObject

/-- The findings on a group with its identifier, target by target. -/
def findings (config : Config) (group : String × Json) : List Finding :=
  (targets group).flatMap (Target.findings config group.1 (title group))

end Group

/-- Whether the document has targets of its own. -/
def Json.embedded (v : Json) : Finding :=
  if v.hasTargets then
    ⟨"TGT001", .error, "Targets", "Failed",
      some "Workflows should not have any hard-coded targets"⟩
  else
    ⟨"TGT001", .success, "Targets", "Passed",
      some "The workflow does not appear to have any targets embedded in it"⟩

/-! ### Reading groups -/

theorem GroupTarget.ofJson?_settle (t : Json) :
    ofJson? t.settle = if t.isObject then
      some ⟨Target.type? t, (t.itemsAt "selected_target_ids").map Json.settle⟩ else none := by
  unfold ofJson?
  rw [Json.members?_settle]
  split
  · rw [Option.map_some, Members.string?_fields, Members.items_fields]
    rfl
  · rfl

namespace Rules

theorem groupTarget_ofJson (config : Config) (id : String) (group : TargetGroup) (t : Json) :
    groupTarget config id group
        ⟨Target.type? t, (t.itemsAt "selected_target_ids").map Json.settle⟩ =
      Target.findings config id (groupTitle id group) t := by
  have picked (title : String) : selectedTargets title
      ⟨Target.type? t, (t.itemsAt "selected_target_ids").map Json.settle⟩ =
        if t.itemsAt "selected_target_ids" ≠ [] then [Target.handPicked title] else [] := by
    unfold selectedTargets
    rw [Finding.withMoreInfo_of_ne_empty _ (by decide)]
    cases t.itemsAt "selected_target_ids" <;> rfl
  have typed (title : String) : targetType config title
      ⟨Target.type? t, (t.itemsAt "selected_target_ids").map Json.settle⟩ =
        if Target.isDefault config t = false then [Target.otherType config title t] else [] := by
    have same : Target.isDefault config t = (Target.type? t).any config.isDefaultTargetType := by
      unfold Target.isDefault Config.isDefaultTargetType
      simp only [List.contains_eq_mem]
    unfold targetType
    rw [same, Finding.withMoreInfo_of_ne_empty]
    · cases (Target.type? t).any config.isDefaultTargetType <;> rfl
    · repeat apply Finding.append_ne_empty
      decide
  unfold groupTarget Target.findings
  dsimp only
  rw [picked, typed, ite_and]

theorem flatMap_groupTarget (config : Config) (id : String) (group : TargetGroup) (ts : List Json) :
    ((ts.map Json.settle).filterMap GroupTarget.ofJson?).flatMap (groupTarget config id group) =
      (ts.filter Json.isObject).flatMap (Target.findings config id (groupTitle id group)) := by
  induction ts with
  | nil => rfl
  | cons t rest ih =>
    rw [List.map_cons, List.filterMap_cons, GroupTarget.ofJson?_settle, List.filter_cons]
    by_cases object : t.isObject
    · rw [if_pos object, if_pos object]
      dsimp only
      rw [List.flatMap_cons, List.flatMap_cons, groupTarget_ofJson, ih]
    · rw [if_neg object, if_neg object]
      exact ih

/-- The rule finds on a group what its value shows. -/
theorem targetGroup_ofJson (config : Config) {group : String × Json} (h : group.2.Settled) :
    targetGroup config (group.1, TargetGroup.ofJson group.2) = Group.findings config group := by
  rw [targetGroup, TargetGroup.ofJson_of_settled h]
  exact flatMap_groupTarget config group.1 _ _

theorem targets_eq (config : Config) (v : Json) :
    targets config (Document.ofMembers v.fields) =
      v.embedded :: v.groups.flatMap (Group.findings config) := by
  have own : embeddedTargets (Document.ofMembers v.fields) = v.embedded := by
    rw [embeddedTargets, Document.isSet_targets_fields, Json.embedded]
    simp (disch := decide) only [Finding.withMoreInfo_of_ne_empty]
    rfl
  rw [targets, own, Document.targetGroups_fields, List.flatMap_map]
  congr 1
  exact List.flatMap_congr fun group mem => targetGroup_ofJson config (Json.settled_of_mem_groups mem)

end Rules

/-! ### The default group -/

theorem Json.distinct_groups (v : Json) : Members.Distinct v.groups := by
  unfold groups
  cases v.get? "target_groups" with
  | none => exact List.nodup_nil
  | some w => exact w.distinct_fields

namespace Group

/-- Only the default group is asked for the types of its targets. -/
theorem fst_eq_of_mem_findings {config : Config} {group : String × Json} {f : Finding}
    (h : f ∈ findings config group) (code : f.code = "TGT003") :
    group.1 = config.defaultTargetGroupId := by
  obtain ⟨t, -, h⟩ := List.mem_flatMap.1 h
  rcases List.mem_append.1 h with h | h
  · split at h
    · rw [List.mem_singleton.1 h] at code
      exact absurd (show "TGT002" = "TGT003" from code) (by decide)
    · cases h
  · split at h
    · next asked => exact asked.1
    · cases h

theorem countP_le_one {config : Config} {groups : Members Json} (h : Members.Distinct groups) :
    groups.countP (fun group => (findings config group).any fun f => f.code == "TGT003") ≤ 1 := by
  have asked : groups.countP (fun group => (findings config group).any fun f => f.code == "TGT003") ≤
      groups.countP (fun group => group.1 == config.defaultTargetGroupId) := by
    refine List.countP_mono_left fun group _ warned => ?_
    obtain ⟨f, mem, code⟩ := List.any_eq_true.1 warned
    exact beq_iff_eq.2 (fst_eq_of_mem_findings mem (beq_iff_eq.1 code))
  have once := List.nodup_iff_count_le_one.1 h config.defaultTargetGroupId
  rw [List.count, List.countP_map] at once
  exact asked.trans once

end Group

/-- **Targets group by group.** The targets of a report are what each target of each group shows by
itself, in the order of the document, and one group at most is asked for types. -/
theorem targets_of_report {text : String} {config : Config} {report : Report}
    (h : analyze text config = .ok report) :
    ∃ members, Json.ofText text = .ok (.obj members) ∧
      report.inBucket .targets =
        (Json.obj members).embedded :: (Json.obj members).groups.flatMap (Group.findings config) ∧
      (Json.obj members).groups.countP (fun group =>
        (Group.findings config group).any fun f => f.code == "TGT003") ≤ 1 := by
  obtain ⟨members, flag, hread, -, rfl⟩ := exists_of_analyze_eq_ok h
  refine ⟨members, hread, ?_, Group.countP_le_one (Json.distinct_groups _)⟩
  unfold Json.report
  rw [Document.inBucket_report, Document.bucketFindings, Rules.targets_eq]

/-- The key of the default group is given twice, so it stands first and holds what is given last. Of
the others one has an empty name, and one is no object. -/
def groupedWorkflow : Json :=
  .obj [("targets", .null),
    ("target_groups", .obj [
      (Config.builtIn.defaultTargetGroupId, .obj [
        ("name", .str "Earlier"), ("targets", .arr [.obj [], .obj []])]),
      ("second", .obj [
        ("name", .str ""),
        ("targets", .arr [
          .obj [("selected_target_ids", .arr [.str "a", .str "b"]), ("data_target_type", .str "c")],
          .str "no target"])]),
      ("third", .null),
      (Config.builtIn.defaultTargetGroupId, .obj [
        ("name", .num (.int 1)),
        ("targets", .arr [
          .obj [("data_target_type", .str "web-service.endpoint")],
          .obj [("data_target_type", .null), ("selected_target_ids", .arr [.null])],
          .obj [("data_target_type", .str "c"), ("selected_target_ids", .str "a")]])])]),
    ("workflow", .obj [("properties", .obj [("atomic", .obj [("is_atomic", .bool true)])])])]

example : (groupedWorkflow.groups.flatMap (Group.findings .builtIn)).map (fun f =>
      (f.code, f.title, f.description)) =
    [("TGT002", "Target Group: " ++ Config.builtIn.defaultTargetGroupId,
        "Should not contain manually selected targets"),
      ("TGT003", "Target Group: " ++ Config.builtIn.defaultTargetGroupId,
        "Non-default target type (unspecified)"),
      ("TGT003", "Target Group: " ++ Config.builtIn.defaultTargetGroupId,
        "Non-default target type (c)"),
      ("TGT002", "Target Group: ", "Should not contain manually selected targets")] := by
  decide +kernel

theorem exists_report_groupedWorkflow :
    ∃ report, analyze groupedWorkflow.compact .builtIn = .ok report := by
  apply exists_report_of_gap?
  rw [Json.ofText_compact]
  decide +kernel

theorem targets_of_report_groupedWorkflow :
    ∃ report members, analyze groupedWorkflow.compact .builtIn = .ok report ∧
      Json.ofText groupedWorkflow.compact = .ok (.obj members) ∧
      report.inBucket .targets =
        (Json.obj members).embedded :: (Json.obj members).groups.flatMap (Group.findings .builtIn) ∧
      (Json.obj members).groups.countP (fun group =>
        (Group.findings .builtIn group).any fun f => f.code == "TGT003") ≤ 1 := by
  obtain ⟨report, analyzed⟩ := exists_report_groupedWorkflow
  obtain ⟨members, spec⟩ := targets_of_report analyzed
  exact ⟨report, members, analyzed, spec⟩

end WorkflowLint
