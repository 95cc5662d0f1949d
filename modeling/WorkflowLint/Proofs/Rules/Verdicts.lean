import WorkflowLint.Proofs.Report.Summary
import WorkflowLint.Proofs.Walk

/-!
# Verdicts

A warning is advice and a matter of the settings; every other finding is a verdict on what stands in
the document. `verdicts` leaves the severities of the verdicts. Each variable gets one and so does
each reference to an atomic workflow; an activity gets one if it continues on failure. No
configuration occurs in any of the lists below.
-/

set_option autoImplicit false

namespace WorkflowLint

/-- The severities of the findings that are no warnings, in order. -/
def verdicts (findings : List Finding) : List Severity :=
  (findings.map Finding.severity).filter fun s => s != .warning

theorem verdicts_append (a b : List Finding) : verdicts (a ++ b) = verdicts a ++ verdicts b := by
  rw [verdicts, List.map_append, List.filter_append]
  rfl

theorem verdicts_cons (f : Finding) (fs : List Finding) :
    verdicts (f :: fs) = verdicts [f] ++ verdicts fs :=
  verdicts_append [f] fs

theorem verdicts_flatMap {α : Type} (findings : α → List Finding) (list : List α) :
    verdicts (list.flatMap findings) = list.flatMap fun a => verdicts (findings a) := by
  induction list with
  | nil => rfl
  | cons a rest ih => rw [List.flatMap_cons, verdicts_append, ih, List.flatMap_cons]

theorem Severity.count_eq_count_verdicts {s : Severity} (h : s ≠ .warning) (fs : List Finding) :
    s.count fs = (verdicts fs).count s := by
  have kept : (verdicts fs).count s = (fs.map Finding.severity).count s :=
    List.count_filter (bne_iff_ne.2 h)
  rw [kept, List.count, List.countP_map]
  rfl

namespace Rules

theorem verdicts_properties (mode : Mode) (d : Document) :
    verdicts (properties mode d) = [.info, .info] :=
  rfl

theorem verdicts_triggers (d : Document) : verdicts (triggers d) = [.info] :=
  rfl

theorem verdicts_statistics (d : Document) : verdicts (statistics d) = [.info, .info] :=
  rfl

/-! ### Variables -/

/-- A declaration is listed if it is complete and an error if it is not. -/
theorem verdicts_declaration (config : Config) (v : Option Variable) :
    verdicts (declaration config v) =
      [if (Declared.ofVariable? v).isSome then .info else .error] := by
  unfold declaration
  cases Declared.ofVariable? v with
  | none => rfl
  | some declared =>
    have short : verdicts (shortDescription config declared) = [] := by
      unfold shortDescription
      split <;> rfl
    have name : verdicts (unconventionalName config declared) = [] := by
      unfold unconventionalName
      dsimp only
      split <;> rfl
    simp only [verdicts_append, short, name]
    rfl

theorem verdicts_globalVariables (declared : Option (Field (List (Option Variable)))) :
    verdicts [globalVariables declared] =
      [if declared.any Field.isNull then .error else .success] := by
  unfold globalVariables
  cases declared.any Field.isNull <;> rfl

theorem verdicts_declarations (config : Config) (d : Document) :
    verdicts (declarations config d) =
      (match (d.workflow.present?.map WorkflowBody.declarations).bind Field.present? with
        | some vs => vs.map fun v => if (Declared.ofVariable? v).isSome then .info else .error
        | none => [.info]) ++
      [if (d.workflow.present?.map WorkflowBody.declarations).any Field.isNull then .error
        else .success] := by
  rw [declarations, verdicts_append, verdicts_globalVariables]
  congr 1
  cases (d.workflow.present?.map WorkflowBody.declarations).bind Field.present? with
  | none => rfl
  | some vs => simp only [verdicts_flatMap, verdicts_declaration, List.map_eq_flatMap]

/-! ### Targets -/

/-- Nothing in a group is more than advice. -/
theorem verdicts_targetGroup (config : Config) (entry : String × TargetGroup) :
    verdicts (targetGroup config entry) = [] := by
  have selected (title : String) (target : GroupTarget) :
      verdicts (selectedTargets title target) = [] := by
    unfold selectedTargets
    split <;> rfl
  have typed (title : String) (target : GroupTarget) :
      verdicts (targetType config title target) = [] := by
    unfold targetType
    split <;> rfl
  have each (target : GroupTarget) :
      verdicts (groupTarget config entry.1 entry.2 target) = [] := by
    rw [groupTarget, verdicts_append, selected, List.nil_append]
    split
    · exact typed _ target
    · rfl
  simp only [targetGroup, verdicts_flatMap, each, List.flatMap_eq_nil_iff, implies_true]

theorem verdicts_targets (config : Config) (d : Document) :
    verdicts (targets config d) = [if d.targets.isSet then .error else .success] := by
  have embedded : verdicts [embeddedTargets d] =
      [if d.targets.isSet then .error else .success] := by
    unfold embeddedTargets
    cases d.targets.isSet <;> rfl
  rw [targets, verdicts_cons, embedded, verdicts_flatMap]
  simp only [verdicts_targetGroup, List.flatMap_eq_nil_iff.2 fun _ _ => rfl, List.append_nil]

/-! ### Activities and atomic workflows -/

/-- Whatever its type, an activity is noted if it continues on failure. -/
theorem verdicts_byType (a : Activity) :
    verdicts (byType a) = if a.continueOnFailure.isTruthy then [.info] else [] := by
  have request : verdicts (httpRequest a) =
      if a.continueOnFailure.isTruthy then [.info] else [] := by
    unfold httpRequest
    cases a.continueOnFailure.isTruthy <;> cases a.continueOnErrorStatusCode.isTruthy <;> rfl
  have query : verdicts (jsonPathQuery a) =
      if a.continueOnFailure.isTruthy then [.info] else [] := by
    unfold jsonPathQuery
    cases a.continueOnFailure.isTruthy <;> rfl
  have other : verdicts (anyOther a) = if a.continueOnFailure.isTruthy then [.info] else [] := by
    unfold anyOther
    cases a.continueOnFailure.isTruthy <;> cases a.allowAutoRedirect.isTruthy <;> rfl
  unfold byType
  split
  · exact request
  · split
    · exact query
    · exact other

/-- The other rules on an activity give advice. -/
theorem verdicts_activity (a : Activity) :
    verdicts (activity a) = if a.continueOnFailure.isTruthy then [.info] else [] := by
  have keys : verdicts (accountKeys a) = [] := by
    unfold accountKeys
    split <;> rfl
  have status : verdicts (statusCode a) = [] := by
    unfold statusCode
    split <;> rfl
  rw [activity, verdicts_append, verdicts_append, keys, verdicts_byType, status, List.append_nil,
    List.nil_append]

theorem verdicts_activities (mode : Mode) (d : Document) :
    verdicts (activities mode d) =
      .info :: if d.forest.isEmpty then [.info]
        else (d.activities.filter fun a => a.continueOnFailure.isTruthy).map fun _ => .info := by
  have found : verdicts d.walk.found.reverse =
      (d.activities.filter fun a => a.continueOnFailure.isTruthy).map fun _ => .info := by
    rw [(Document.records_walk d).found, List.reverse_reverse, verdicts_flatMap]
    simp only [verdicts_activity]
    induction d.activities with
    | nil => rfl
    | cons a rest ih =>
      rw [List.flatMap_cons, ih, List.filter_cons]
      split <;> rfl
  have overview : verdicts [activitiesOverview mode] = [.info] := rfl
  rw [activities, verdicts_cons, overview, List.singleton_append]
  split
  · rfl
  · rw [found]

theorem verdicts_atomics (d : Document) :
    verdicts (atomics d) =
      if d.atomicReferences.isEmpty then [.info]
      else d.atomicReferences.map fun r =>
        if (d.walk.calls.lookup r).isSome then .info else .error := by
  have each (r : String) : verdicts [atomic d.walk.calls r] =
      [if (d.walk.calls.lookup r).isSome then .info else .error] := by
    unfold atomic
    cases d.walk.calls.lookup r <;> rfl
  unfold atomics
  dsimp only
  split
  · rfl
  · simp only [List.map_eq_flatMap, verdicts_flatMap, each]

end Rules

end WorkflowLint
