import WorkflowLint.Document.Basic
import WorkflowLint.Proofs.Json.Path

/-!
# The levels of a document

Four values, each inside the one before, make a document a workflow: three objects and a boolean.
`Json.gap?` looks for the first that is missing, by their paths and in the value as the text gives
it; `mode?_fields_spec` says that a document states its mode exactly if there is none. Nothing else
in the value matters for it.
-/

set_option autoImplicit false

namespace WorkflowLint

open Json

namespace Gap

/-- The levels from the root inwards. -/
def all : List Gap := [.workflow, .properties, .atomic, .isAtomic]

/-- Where a level stands in a document. -/
def path : Gap → List String
  | .workflow => ["workflow"]
  | .properties => ["workflow", "properties"]
  | .atomic => ["workflow", "properties", "atomic"]
  | .isAtomic => ["workflow", "properties", "atomic", "is_atomic"]

/-- What has to stand there: a boolean at the last level, an object at the others. -/
def accepts : Gap → Json → Bool
  | .isAtomic, v => v.bool?.isSome
  | _, v => v.isObject

/-- What is said of a document that misses the level. -/
def complaint : Gap → String
  | .workflow => "Invalid workflow structure: 'workflow' not found"
  | .properties => "Invalid workflow structure: 'properties' not found"
  | .atomic => "Invalid workflow structure: 'properties.atomic' not found"
  | .isAtomic => "Invalid workflow structure: 'properties.atomic.is_atomic' must be a boolean"

theorem message_eq_complaint (gap : Gap) : gap.message = gap.complaint := by
  cases gap <;> rfl

end Gap

namespace Json

/-- The value has at a level what has to stand there. -/
def fills (v : Json) (gap : Gap) : Bool := (v.at? gap.path).any gap.accepts

/-- The first level at which the value lacks what has to stand there. -/
def gap? (v : Json) : Option Gap := Gap.all.find? fun gap => !v.fills gap

end Json

theorem Members.present?_field_object {α : Type} (v : Json) (key : String) (f : Members Json → α) :
    (Members.field v.fields key fun w => w.members?.map f).present? =
      ((v.get? key).filter isObject).map fun w => f w.fields := by
  rw [Members.present?_field v key rfl]
  cases v.get? key with
  | none => rfl
  | some w =>
    simp only [Option.bind_some, members?_settle, Option.filter_some]
    split <;> rfl

theorem Document.mode?_fields (v : Json) :
    (Document.ofMembers v.fields).mode? =
      match (v.get? "workflow").filter isObject with
      | none => .error .workflow
      | some w =>
        match (w.get? "properties").filter isObject with
        | none => .error .properties
        | some p =>
          match (p.get? "atomic").filter isObject with
          | none => .error .atomic
          | some a =>
            match (a.get? "is_atomic").bind bool? with
            | none => .error .isAtomic
            | some flag => .ok (Mode.ofBool flag) := by
  have workflow : (Document.ofMembers v.fields).workflow.present? = _ :=
    Members.present?_field_object v "workflow" _
  simp only [Document.mode?, workflow]
  cases (v.get? "workflow").filter isObject with
  | none => rfl
  | some w =>
    have properties : (Members.field w.fields "properties" WorkflowProperties.ofJson?).present? = _ :=
      Members.present?_field_object w "properties" _
    simp only [Option.map_some, properties]
    cases (w.get? "properties").filter isObject with
    | none => rfl
    | some p =>
      have atomic : (Members.field p.fields "atomic" AtomicSettings.ofJson?).present? = _ :=
        Members.present?_field_object p "atomic" _
      simp only [Option.map_some, atomic]
      cases (p.get? "atomic").filter isObject with
      | none => rfl
      | some a =>
        have flag : (Members.field a.fields "is_atomic" bool?).present? =
            (a.get? "is_atomic").bind bool? := by
          rw [Members.present?_field a "is_atomic" rfl]
          simp only [bool?_settle]
        cases h : (a.get? "is_atomic").bind bool? with
        | none => simp only [Option.map_some, flag, h]
        | some b => simp only [Option.map_some, flag, h]

/-- The declarations of variables stand under a key of the workflow. -/
theorem Document.declared_fields (v : Json) :
    (Document.ofMembers v.fields).workflow.present?.map WorkflowBody.declarations =
      ((v.get? "workflow").filter isObject).map fun w =>
        Members.field w.fields "variables" fun x => x.items?.map fun items =>
          items.map Variable.ofJson? := by
  have workflow : (Document.ofMembers v.fields).workflow.present? = _ :=
    Members.present?_field_object v "workflow" _
  rw [workflow, Option.map_map]
  rfl

theorem fills_of_at? {v w : Json} {gap : Gap} {key : String} (path : List String)
    (h : v.at? path = some w) (hpath : gap.path = path ++ [key]) :
    v.fills gap = ((w.get? key).filter gap.accepts).isSome := by
  rw [fills, hpath, at?_append, h, Option.isSome_filter]
  cases hk : w.get? key <;> simp [at?, hk]

theorem at?_snoc {v w x : Json} {key : String} (path : List String) (h : v.at? path = some w)
    (hk : w.get? key = some x) : v.at? (path ++ [key]) = some x := by
  rw [at?_append, h]
  simp [at?, hk]

/-- A document states the mode that stands at the last level, unless a level is not filled. -/
theorem Document.mode?_fields_spec (v : Json) :
    match (Document.ofMembers v.fields).mode? with
    | .error gap => v.gap? = some gap
    | .ok mode => v.gap? = none ∧
        ∃ flag, v.at? Gap.isAtomic.path = some (.bool flag) ∧ mode = .ofBool flag := by
  rw [Document.mode?_fields]
  have workflow : v.fills .workflow = ((v.get? "workflow").filter isObject).isSome :=
    fills_of_at? [] rfl rfl
  cases hw : (v.get? "workflow").filter isObject with
  | none => simp [gap?, Gap.all, workflow, hw]
  | some w =>
    have atW : v.at? ["workflow"] = some w := at?_snoc [] rfl (Option.eq_some_of_filter_eq_some hw)
    have properties : v.fills .properties = ((w.get? "properties").filter isObject).isSome :=
      fills_of_at? _ atW rfl
    cases hp : (w.get? "properties").filter isObject with
    | none => simp [gap?, Gap.all, workflow, properties, hw, hp]
    | some p =>
      have atP := at?_snoc _ atW (Option.eq_some_of_filter_eq_some hp)
      have atomic : v.fills .atomic = ((p.get? "atomic").filter isObject).isSome :=
        fills_of_at? _ atP rfl
      cases ha : (p.get? "atomic").filter isObject with
      | none => simp [gap?, Gap.all, workflow, properties, atomic, hw, hp, ha]
      | some a =>
        have atA := at?_snoc _ atP (Option.eq_some_of_filter_eq_some ha)
        have isAtomic : v.fills .isAtomic = ((a.get? "is_atomic").filter fun x => x.bool?.isSome).isSome :=
          fills_of_at? _ atA rfl
        cases hf : a.get? "is_atomic" with
        | none => simp [gap?, Gap.all, workflow, properties, atomic, isAtomic, hw, hp, ha, hf]
        | some x =>
          cases hx : x.bool? with
          | none => simp [gap?, Gap.all, workflow, properties, atomic, isAtomic, hw, hp, ha, hf, hx]
          | some flag =>
            have atF := at?_snoc _ atA hf
            rw [bool?_eq_some_iff.1 hx] at atF
            have none : v.gap? = none := by
              simp [gap?, Gap.all, workflow, properties, atomic, isAtomic, hw, hp, ha, hf, hx]
            simp only [hp, ha, hf, Option.bind_some, hx]
            exact ⟨none, flag, atF, rfl⟩

theorem fills_of_gap?_eq_none {v : Json} (h : v.gap? = none) (gap : Gap) : v.fills gap := by
  have mem : gap ∈ Gap.all := by cases gap <;> simp [Gap.all]
  simpa using List.find?_eq_none.1 h gap mem

end WorkflowLint
