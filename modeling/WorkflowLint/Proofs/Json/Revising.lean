import WorkflowLint.Document.Field
import WorkflowLint.Proofs.Json.Settled

/-!
# Revising values

A value is revised where it stands: the values of an object by their keys, the items of a list, one
flag among members. A look-up finds the revised value of what it found before (`lookup_revise`), and
revising with settled values leaves a settled value settled (`Settled.revise`).
-/

set_option autoImplicit false

namespace WorkflowLint

namespace Members

/-- The members with the flag under the key in plain form: `true` or nothing. -/
def tick (key : String) (members : Members Json) : Members Json :=
  if ((members.lookup key).getD .null).isTruthy then put key (.bool true) members
  else erase key members

/-- The members with something else for each value. -/
def revise {α : Type} (f : String → α → α) (members : Members α) : Members α :=
  members.map fun m => (m.1, f m.1 m.2)

/-- The members with something else for the value under the key. -/
def adjust {α : Type} (key : String) (f : α → α) : Members α → Members α :=
  revise fun k v => if k = key then f v else v

end Members

namespace Json

def onMembers (f : Members Json → Members Json) : Json → Json
  | obj members => obj (f members)
  | v => v

def onItems (f : Json → Json) : Json → Json
  | arr items => arr (items.map f)
  | v => v

end Json

/-! ### Look-ups -/

namespace Members

theorem lookup_revise {α : Type} (f : String → α → α) (members : Members α) (k : String) :
    (revise f members).lookup k = (members.lookup k).map (f k) := by
  induction members with
  | nil => rfl
  | cons m rest ih =>
    obtain ⟨k', v⟩ := m
    rw [revise, List.map_cons, lookup_cons_ite, lookup_cons_ite, ← revise, ih]
    by_cases here : k = k'
    · simp only [here, if_pos, Option.map_some]
    · simp only [if_neg here]

theorem lookup_adjust {α : Type} (key : String) (f : α → α) (members : Members α) (k : String) :
    (adjust key f members).lookup k =
      if k = key then (members.lookup k).map f else members.lookup k := by
  rw [adjust, lookup_revise]
  by_cases here : k = key
  · simp only [if_pos here]
  · simp only [if_neg here, Option.map_id']

theorem lookup_tick (key : String) (members : Members Json) {k : String} (other : k ≠ key) :
    (tick key members).lookup k = members.lookup k := by
  unfold tick
  split
  · rw [lookup_put, if_neg other]
  · rw [lookup_erase, if_neg other]

/-- A flag in plain form is as truthy as it was. -/
theorem isTruthy_lookup_tick (key : String) (members : Members Json) (k : String) :
    (((tick key members).lookup k).getD .null).isTruthy =
      ((members.lookup k).getD .null).isTruthy := by
  by_cases here : k = key
  · subst here
    unfold tick
    split
    · next truthy =>
      rw [lookup_put, if_pos rfl, truthy]
      rfl
    · next falsy =>
      rw [lookup_erase, if_pos rfl, Bool.eq_false_iff.2 falsy]
      rfl
  · rw [lookup_tick key members here]

variable {members members' : Members Json} {key : String}

theorem object_onMembers {f : Members Json → Members Json} (empty : f [] = [])
    (h : members'.lookup key = (members.lookup key).map (Json.onMembers f)) :
    object members' key = f (object members key) := by
  rw [object, h, object]
  cases members.lookup key with
  | none => exact empty.symm
  | some v =>
    cases v with
    | obj members => rfl
    | _ => exact empty.symm

theorem items_onItems {f : Json → Json}
    (h : members'.lookup key = (members.lookup key).map (Json.onItems f)) :
    items members' key = (items members key).map f := by
  rw [items, h, items]
  cases members.lookup key with
  | none => rfl
  | some v => cases v <;> rfl

end Members

/-! ### Settled values -/

namespace Json

/-- The value under each key may be replaced by another settled one. -/
theorem Settled.revise {f : String → Json → Json} {members : Members Json}
    (h : (obj members).Settled) (inside : ∀ m ∈ members, m.2.Settled → (f m.1 m.2).Settled) :
    (obj (Members.revise f members)).Settled := by
  rw [settled_obj_iff] at h ⊢
  refine ⟨?_, fun m mem => ?_⟩
  · rw [Members.Distinct, Members.revise, List.map_map]
    exact h.1
  · obtain ⟨n, here, rfl⟩ := List.mem_map.1 mem
    exact inside n here (h.2 n here)

/-- The function takes settled values to settled ones. -/
def Settles (f : Json → Json) : Prop := ∀ v : Json, v.Settled → (f v).Settled

theorem Settles.adjust {f : Json → Json} (h : Settles f) (key : String) :
    Settles (onMembers (Members.adjust key f)) := by
  intro v settled
  cases v with
  | obj members =>
    refine settled.revise fun m _ inside => ?_
    split
    · exact h _ inside
    · exact inside
  | _ => exact settled

theorem Settles.tick (key : String) : Settles (onMembers (Members.tick key)) := by
  intro v settled
  cases v with
  | obj members =>
    rw [onMembers, Members.tick]
    split
    · exact Settled.put settled key rfl
    · exact Settled.erase settled key
  | _ => exact settled

theorem Settles.onItems {f : Json → Json} (h : Settles f) : Settles (onItems f) := by
  intro v settled
  cases v with
  | arr items =>
    rw [Json.onItems, settled_arr_iff]
    intro w mem
    obtain ⟨x, here, rfl⟩ := List.mem_map.1 mem
    exact h x (settled_arr_iff.1 settled x here)
  | _ => exact settled

theorem Settles.comp {f g : Members Json → Members Json} (hf : Settles (onMembers f))
    (hg : Settles (onMembers g)) : Settles (onMembers fun members => f (g members)) := by
  intro v settled
  cases v with
  | obj members => exact hf _ (hg _ settled)
  | _ => exact settled

end Json

end WorkflowLint
