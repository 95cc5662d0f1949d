import WorkflowLint.Document.Field

/-!
# Paths into a value

What a document says under a key, asked of the value as the text gives it: `Json.get?` takes the
last member of a repeated key and `Json.at?` follows several keys. Documents are read from the
settled value (`Json.settle`), where every key stands once; `lookup_fields` says that both see the
same, so that statements about a document need not mention settling.
-/

set_option autoImplicit false

namespace WorkflowLint

namespace Json

/-- The value under a key of an object; of a repeated key the last counts. -/
def get? (v : Json) (key : String) : Option Json :=
  v.members?.bind fun members => members.reverse.lookup key

/-- The value at the end of a path of keys. -/
def at? (v : Json) : List String → Option Json
  | [] => some v
  | key :: rest => (v.get? key).bind fun w => w.at? rest

/-- The items of the list under a key; none if there is no list. -/
def itemsAt (v : Json) (key : String) : List Json := ((v.get? key).bind items?).getD []

def isObject (v : Json) : Bool := v.members?.isSome

/-- The members of an object as a reader meets them: settled, at every depth. -/
def fields (v : Json) : Members Json := v.settle.members?.getD []

theorem isObject_iff {v : Json} : v.isObject = true ↔ ∃ members, v = .obj members := by
  simp only [isObject, Option.isSome_iff_exists, members?_eq_some_iff]

theorem get?_of_not_isObject {v : Json} (h : ¬v.isObject) (key : String) : v.get? key = none := by
  cases v with
  | obj members => exact absurd rfl h
  | _ => rfl

theorem mem_of_get?_eq_some {v w : Json} {key : String} (h : v.get? key = some w) :
    ∃ members, v = .obj members ∧ (key, w) ∈ members := by
  obtain ⟨members, hv, hw⟩ := Option.bind_eq_some_iff.1 h
  obtain ⟨before, behind, he, -⟩ := List.lookup_eq_some_iff.1 hw
  refine ⟨members, members?_eq_some_iff.1 hv, List.mem_reverse.1 ?_⟩
  rw [he]
  exact List.mem_append_right _ List.mem_cons_self

theorem isObject_of_get? {v w : Json} {key : String} (h : v.get? key = some w) : v.isObject := by
  obtain ⟨members, rfl, -⟩ := mem_of_get?_eq_some h
  rfl

theorem itemsAt_of_get? {v : Json} {key : String} {items : List Json}
    (h : v.get? key = some (.arr items)) : v.itemsAt key = items := by
  rw [itemsAt, h]
  rfl

theorem at?_append (v : Json) (path path' : List String) :
    v.at? (path ++ path') = (v.at? path).bind fun w => w.at? path' := by
  induction path generalizing v with
  | nil => rfl
  | cons key rest ih =>
    simp only [List.cons_append, at?, Option.bind_assoc]
    congr 1
    funext w
    exact ih w

/-! ### Settled values -/

theorem settle_arr (items : List Json) : (arr items).settle = .arr (items.map settle) := by
  rw [settle, rearrange, rearrangeItems_eq_map]
  rfl

theorem settle_obj (members : Members Json) :
    (obj members).settle = .obj (Members.settle (members.map fun m => (m.1, m.2.settle))) := by
  rw [settle, rearrange, rearrangeMembers_eq_map]
  rfl

@[simp] theorem string?_settle (v : Json) : v.settle.string? = v.string? := by
  cases v <;> rfl

@[simp] theorem bool?_settle (v : Json) : v.settle.bool? = v.bool? := by
  cases v <;> rfl

@[simp] theorem items?_settle (v : Json) : v.settle.items? = v.items?.map (List.map settle) := by
  cases v with
  | arr items => rw [settle_arr]; rfl
  | _ => rfl

@[simp] theorem isTruthy_settle (v : Json) : v.settle.isTruthy = v.isTruthy := by
  cases v <;> rfl

@[simp] theorem isTruthy_canonical (v : Json) : v.canonical.isTruthy = v.isTruthy := by
  cases v <;> rfl

/-- A settled value is an object where the value is one, and has the fields of it. -/
theorem members?_settle (v : Json) :
    v.settle.members? = if v.isObject then some v.fields else none := by
  cases v with
  | obj members => rw [fields, settle_obj]; rfl
  | _ => rfl

theorem settle_of_isObject {v : Json} (h : v.isObject) : v.settle = .obj v.fields := by
  have := members?_settle v
  rw [if_pos h] at this
  exact members?_eq_some_iff.1 this

/-- The fields of a value hold what `get?` finds in it. -/
theorem lookup_fields (v : Json) (key : String) :
    v.fields.lookup key = (v.get? key).map settle := by
  cases v with
  | obj members =>
    have h : (obj members).fields = Members.settle (members.map fun m => (m.1, m.2.settle)) := by
      rw [fields, settle_obj]; rfl
    rw [h, Members.lookup_settle, ← List.map_reverse, lookup_map_snd]
    rfl
  | _ => rfl

end Json

/-! ### Reading fields -/

namespace Field

variable {α : Type}

theorem present?_ofJson? {read? : Json → Option α} (h : read? .null = none) (v : Option Json) :
    (ofJson? read? v).present? = v.bind read? := by
  cases v with
  | none => rfl
  | some v =>
    cases v with
    | null => exact h.symm
    | _ => simp only [ofJson?, Option.bind_some]; split <;> simp [present?, *]

end Field

namespace Members

variable {α : Type} (v : Json) (key : String)

theorem string?_fields : string? v.fields key = (v.get? key).bind Json.string? := by
  rw [string?, Json.lookup_fields]
  cases v.get? key <;> simp

theorem items_fields : items v.fields key = (v.itemsAt key).map Json.settle := by
  rw [items, Json.itemsAt, Json.lookup_fields]
  cases h : v.get? key with
  | none => rfl
  | some w =>
    simp only [Option.map_some, Option.bind_some, Json.items?_settle]
    cases w.items? <;> rfl

/-- The fields of the object under a key are the fields of the value there. -/
theorem object_fields : object v.fields key = ((v.get? key).map Json.fields).getD [] := by
  rw [object, Json.lookup_fields]
  cases v.get? key <;> rfl

theorem isTruthy_property_fields :
    (property v.fields key).isTruthy = (v.get? key).any Json.isTruthy := by
  rw [property, Json.lookup_fields, Json.isTruthy_canonical]
  cases v.get? key with
  | none => rfl
  | some w => exact Json.isTruthy_settle w

theorem present?_field {read? : Json → Option α} (h : read? .null = none) :
    (field v.fields key read?).present? = (v.get? key).bind fun w => read? w.settle := by
  rw [field, Field.present?_ofJson? h, Json.lookup_fields]
  cases v.get? key <;> rfl

theorem field_eq_present {w : Json} {read? : Json → Option α} {x : α}
    (found : v.get? key = some w) (none : read? .null = none) (read : read? w.settle = some x) :
    field v.fields key read? = .present x := by
  have present : (field v.fields key read?).present? = some x := by
    rw [present?_field v key none, found]
    exact read
  cases h : field v.fields key read? <;> rw [h] at present <;> cases present
  rfl

end Members

end WorkflowLint
