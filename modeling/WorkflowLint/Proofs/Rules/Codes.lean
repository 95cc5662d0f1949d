import WorkflowLint.Proofs.Outcome
import WorkflowLint.Proofs.Report.Buckets
import WorkflowLint.Proofs.Walk

/-!
# Codes of findings

Every rule has codes of its own, and each of them is used in one bucket only.
-/

set_option autoImplicit false

namespace WorkflowLint

/-- The codes of the rules whose findings go to a bucket. -/
def Bucket.codes : Bucket → List String
  | .properties => ["PROP001", "PROP002"]
  | .variables => ["VAR001", "VAR002", "VAR003", "VAR004", "VAR005", "VAR006"]
  | .triggers => ["TRG001"]
  | .targets => ["TGT001", "TGT002", "TGT003"]
  | .activities =>
    ["ACT001", "ACT002", "ACT003", "ACT004", "ACT005", "ACT006", "ACT007", "ACT008", "ACT009",
      "ACT010"]
  | .atomics => ["ATM001", "ATM002", "ATM003"]
  | .statistics => ["STAT001", "STAT002"]

namespace Rules

/-- The codes of all rules. -/
def codes : List String := Bucket.all.flatMap Bucket.codes

theorem mem_codes_of_mem_bucket {code : String} {b : Bucket} (h : code ∈ b.codes) :
    code ∈ codes := by
  refine List.mem_flatMap.2 ⟨b, ?_, h⟩
  cases b <;> decide

/-- All findings have codes of this bucket. -/
def CodesOf (b : Bucket) (findings : List Finding) : Prop := ∀ f ∈ findings, f.code ∈ b.codes

section

variable {b : Bucket} {f : Finding} {fs gs : List Finding}

theorem codesOf_nil : CodesOf b [] := fun _ h => absurd h List.not_mem_nil

theorem codesOf_cons : CodesOf b (f :: fs) ↔ f.code ∈ b.codes ∧ CodesOf b fs :=
  List.forall_mem_cons

theorem codesOf_append : CodesOf b (fs ++ gs) ↔ CodesOf b fs ∧ CodesOf b gs :=
  List.forall_mem_append

/-- The code of the finding is the one at this place among the codes of the bucket. -/
theorem codesOf_single (i : Nat) (h : b.codes[i]? = some f.code) : CodesOf b [f] :=
  codesOf_cons.2 ⟨List.mem_of_getElem? h, codesOf_nil⟩

theorem codesOf_flatMap {α : Type} {list : List α} {findings : α → List Finding}
    (h : ∀ a ∈ list, CodesOf b (findings a)) : CodesOf b (list.flatMap findings) := by
  intro f hf
  obtain ⟨a, ha, hf⟩ := List.mem_flatMap.1 hf
  exact h a ha f hf

theorem codesOf_ite {c : Prop} [Decidable c] (hf : CodesOf b fs) (hg : CodesOf b gs) :
    CodesOf b (if c then fs else gs) := by
  split
  · exact hf
  · exact hg

end

theorem codesOf_properties (mode : Mode) (d : Document) :
    CodesOf .properties (properties mode d) := by
  have type : CodesOf .properties [definitionType mode] := codesOf_single 0 rfl
  have names : CodesOf .properties [categories d] := codesOf_single 1 rfl
  exact codesOf_append.2 ⟨type, names⟩

theorem codesOf_declaration (config : Config) (v : Option Variable) :
    CodesOf .variables (declaration config v) := by
  unfold declaration
  split
  · exact codesOf_single 0 rfl
  · next v _ =>
    have short : CodesOf .variables (shortDescription config v) :=
      codesOf_ite (codesOf_single 1 rfl) codesOf_nil
    have name : CodesOf .variables (unconventionalName config v) :=
      codesOf_ite codesOf_nil (codesOf_single 2 rfl)
    have listed : CodesOf .variables [listing v] := codesOf_single 3 rfl
    exact codesOf_append.2 ⟨codesOf_append.2 ⟨short, name⟩, listed⟩

theorem codesOf_declarations (config : Config) (d : Document) :
    CodesOf .variables (declarations config d) := by
  have globals : CodesOf .variables
      [globalVariables (d.workflow.present?.map WorkflowBody.declarations)] := by
    unfold globalVariables
    split
    · exact codesOf_single 5 rfl
    · exact codesOf_single 5 rfl
  refine codesOf_append.2 ⟨?_, globals⟩
  split
  · exact codesOf_flatMap fun v _ => codesOf_declaration config v
  · exact codesOf_single 4 rfl

theorem codesOf_triggers (d : Document) : CodesOf .triggers (triggers d) := codesOf_single 0 rfl

theorem codesOf_targets (config : Config) (d : Document) :
    CodesOf .targets (targets config d) := by
  have embedded : CodesOf .targets [embeddedTargets d] := by
    unfold embeddedTargets
    split
    · exact codesOf_single 0 rfl
    · exact codesOf_single 0 rfl
  have selected (title : String) (target : GroupTarget) :
      CodesOf .targets (selectedTargets title target) :=
    codesOf_ite codesOf_nil (codesOf_single 1 rfl)
  have typed (title : String) (target : GroupTarget) :
      CodesOf .targets (targetType config title target) :=
    codesOf_ite codesOf_nil (codesOf_single 2 rfl)
  refine codesOf_append.2 ⟨embedded, ?_⟩
  refine codesOf_flatMap fun entry _ => codesOf_flatMap fun target _ => ?_
  exact codesOf_append.2 ⟨selected _ target, codesOf_ite (typed _ target) codesOf_nil⟩

theorem codesOf_byType (a : Activity) : CodesOf .activities (byType a) := by
  have request : CodesOf .activities (httpRequest a) :=
    codesOf_append.2 ⟨codesOf_ite (codesOf_single 2 rfl) codesOf_nil,
      codesOf_ite codesOf_nil (codesOf_single 3 rfl)⟩
  have query : CodesOf .activities (jsonPathQuery a) :=
    codesOf_ite (codesOf_single 5 rfl) (codesOf_single 4 rfl)
  have other : CodesOf .activities (anyOther a) :=
    codesOf_append.2 ⟨codesOf_ite (codesOf_single 6 rfl) codesOf_nil,
      codesOf_ite (codesOf_single 7 rfl) codesOf_nil⟩
  exact codesOf_ite request (codesOf_ite query other)

theorem codesOf_activity (a : Activity) : CodesOf .activities (activity a) := by
  have keys : CodesOf .activities (accountKeys a) :=
    codesOf_ite (codesOf_single 1 rfl) codesOf_nil
  have status : CodesOf .activities (statusCode a) :=
    codesOf_ite (codesOf_single 8 rfl) codesOf_nil
  exact codesOf_append.2 ⟨codesOf_append.2 ⟨keys, codesOf_byType a⟩, status⟩

theorem codesOf_activities (mode : Mode) (d : Document) :
    CodesOf .activities (activities mode d) := by
  have overview : CodesOf .activities [activitiesOverview mode] := codesOf_single 0 rfl
  have none : CodesOf .activities [noActivities] := codesOf_single 9 rfl
  have found : CodesOf .activities d.walk.found.reverse := by
    rw [(Document.records_walk d).found, List.reverse_reverse]
    exact codesOf_flatMap fun a _ => codesOf_activity a
  exact codesOf_append.2 ⟨overview, codesOf_ite none found⟩

theorem codesOf_atomics (d : Document) : CodesOf .atomics (atomics d) := by
  have each (reference : String) : CodesOf .atomics [atomic d.walk.calls reference] := by
    unfold atomic
    split
    · exact codesOf_single 0 rfl
    · exact codesOf_single 1 rfl
  refine codesOf_ite (codesOf_single 2 rfl) ?_
  rw [List.map_eq_flatMap]
  exact codesOf_flatMap fun reference _ => each reference

theorem codesOf_statistics (d : Document) : CodesOf .statistics (statistics d) :=
  codesOf_cons.2 ⟨List.mem_cons_self, codesOf_single 1 rfl⟩

/-- Every finding of an analysis has a code of its bucket. -/
theorem codesOf_bucketFindings (d : Document) (config : Config) (mode : Mode) (b : Bucket) :
    CodesOf b (d.bucketFindings config mode b) :=
  match b with
  | .properties => codesOf_properties mode d
  | .variables => codesOf_declarations config d
  | .triggers => codesOf_triggers d
  | .targets => codesOf_targets config d
  | .activities => codesOf_activities mode d
  | .atomics => codesOf_atomics d
  | .statistics => codesOf_statistics d

theorem codesOf_report {text : String} {config : Config} {report : Report}
    (h : analyze text config = .ok report) (b : Bucket) : CodesOf b (report.inBucket b) := by
  obtain ⟨members, flag, -, -, rfl⟩ := exists_of_analyze_eq_ok h
  unfold Json.report
  rw [Document.inBucket_report]
  exact codesOf_bucketFindings _ config _ b

end Rules

end WorkflowLint
