import Mathlib.Data.List.Induction
import Mathlib.Data.List.Nodup
import WorkflowLint.Proofs.Json.Members

/-!
# Settled values

Settling takes repeated keys away, so nothing is left to settle in its result (`settled_settle`), and
it leaves a value alone in which no key is repeated at any depth (`settled_obj_iff`).
-/

set_option autoImplicit false

namespace WorkflowLint

namespace Members

variable {α : Type}

theorem put_eq_append {key : String} {members : Members α} (h : key ∉ members.map Prod.fst)
    (value : α) : put key value members = members ++ [(key, value)] := by
  induction members with
  | nil => rfl
  | cons m rest ih =>
    obtain ⟨k, v⟩ := m
    rw [List.map_cons, List.mem_cons, not_or] at h
    rw [put, if_neg (Ne.symm h.1), ih h.2, List.cons_append]

theorem map_fst_put {key : String} {members : Members α} (h : key ∈ members.map Prod.fst)
    (value : α) : (put key value members).map Prod.fst = members.map Prod.fst := by
  induction members with
  | nil => cases h
  | cons m rest ih =>
    obtain ⟨k, v⟩ := m
    by_cases here : k = key
    · simp [put, here]
    · have below : key ∈ rest.map Prod.fst := (List.mem_cons.1 h).resolve_left (Ne.symm here)
      simp [put, here, ih below]

theorem mem_put {key : String} {value : α} {members : Members α} {m : String × α}
    (h : m ∈ put key value members) : m = (key, value) ∨ m ∈ members := by
  induction members with
  | nil => exact .inl (List.mem_singleton.1 h)
  | cons m' rest ih =>
    obtain ⟨k, v⟩ := m'
    by_cases here : k = key
    · rw [put, if_pos here, here] at h
      exact (List.mem_cons.1 h).imp_right (List.mem_cons_of_mem _)
    · rw [put, if_neg here] at h
      rcases List.mem_cons.1 h with rfl | h
      · exact .inr List.mem_cons_self
      · exact (ih h).imp_right (List.mem_cons_of_mem _)

/-- No key is given twice. -/
def Distinct (members : Members α) : Prop := (members.map Prod.fst).Nodup

theorem Distinct.put {members : Members α} (h : Distinct members) (key : String) (value : α) :
    Distinct (put key value members) := by
  by_cases mem : key ∈ members.map Prod.fst
  · rw [Distinct, map_fst_put mem]
    exact h
  · rw [Distinct, put_eq_append mem, List.map_append]
    exact List.Nodup.append h (List.nodup_singleton key) (List.disjoint_singleton.2 mem)

theorem Distinct.erase {members : Members α} (h : Distinct members) (key : String) :
    Distinct (erase key members) :=
  h.sublist (List.filter_sublist.map Prod.fst)

theorem distinct_settle (members : Members α) : Distinct (settle members) := by
  induction members using List.reverseRecOn with
  | nil => exact List.nodup_nil
  | append_singleton members m ih =>
    rw [settle_snoc]
    exact ih.put m.1 m.2

theorem Distinct.settle {members : Members α} (h : Distinct members) : settle members = members := by
  induction members using List.reverseRecOn with
  | nil => rfl
  | append_singleton members m ih =>
    rw [Distinct, List.map_append] at h
    have fresh : m.1 ∉ members.map Prod.fst := fun mem =>
      List.disjoint_of_nodup_append h mem (List.mem_singleton.2 rfl)
    rw [settle_snoc, ih h.of_append_left, put_eq_append fresh]

theorem mem_settle {members : Members α} {m : String × α} (h : m ∈ Members.settle members) :
    m ∈ members := by
  induction members using List.reverseRecOn with
  | nil => cases h
  | append_singleton members m' ih =>
    rw [settle_snoc] at h
    rcases mem_put h with rfl | h
    · exact List.mem_append_right _ List.mem_cons_self
    · exact List.mem_append_left _ (ih h)

end Members

namespace Json

/-- Induction over a value, through the items of its lists and the members of its objects. -/
@[elab_as_elim]
theorem induction {motive : Json → Prop} (null : motive .null) (bool : ∀ b, motive (.bool b))
    (num : ∀ n, motive (.num n)) (str : ∀ s, motive (.str s))
    (arr : ∀ items, (∀ v ∈ items, motive v) → motive (.arr items))
    (obj : ∀ members : Members Json, (∀ m ∈ members, motive m.2) → motive (.obj members)) :
    ∀ v : Json, motive v
  | .null => null
  | .bool b => bool b
  | .num n => num n
  | .str s => str s
  | .arr items => arr items fun v _ => induction null bool num str arr obj v
  | .obj members => obj members fun m _ => induction null bool num str arr obj m.2
decreasing_by
  · have := List.sizeOf_lt_of_mem ‹v ∈ items›
    simp only [Json.arr.sizeOf_spec]
    omega
  · have := List.sizeOf_lt_of_mem ‹m ∈ members›
    cases m
    simp only [Prod.mk.sizeOf_spec, Json.obj.sizeOf_spec] at this ⊢
    omega

/-- No key is repeated in the value, at no depth. -/
def Settled (v : Json) : Prop := v.settle = v

theorem settled_arr_iff {items : List Json} : (arr items).Settled ↔ ∀ v ∈ items, v.Settled := by
  rw [Settled, settle_arr, arr.injEq]
  exact ⟨fun h v hv => List.map_inj_left.1 (h.trans (List.map_id items).symm) v hv,
    fun h => (List.map_congr_left h).trans (List.map_id items)⟩

theorem settled_obj_iff {members : Members Json} :
    (obj members).Settled ↔ Members.Distinct members ∧ ∀ m ∈ members, m.2.Settled := by
  rw [Settled, settle_obj, obj.injEq]
  constructor
  · intro h
    have distinct : Members.Distinct (members.map fun m => (m.1, m.2.settle)) := by
      have : Members.Distinct members := by
        rw [← h]
        exact Members.distinct_settle _
      rw [Members.Distinct, List.map_map]
      exact this
    rw [distinct.settle] at h
    refine ⟨h ▸ distinct, fun m hm => ?_⟩
    exact congrArg Prod.snd (List.map_inj_left.1 (h.trans (List.map_id members).symm) m hm)
  · rintro ⟨distinct, inside⟩
    have same : members.map (fun m => (m.1, m.2.settle)) = members :=
      (List.map_congr_left fun m hm => congrArg (Prod.mk m.1) (inside m hm)).trans
        (List.map_id members)
    rw [same, distinct.settle]

namespace Settled

variable {members : Members Json} (h : (obj members).Settled)

include h

theorem of_lookup {key : String} {v : Json} (found : members.lookup key = some v) : v.Settled := by
  obtain ⟨before, behind, rfl, -⟩ := List.lookup_eq_some_iff.1 found
  exact (settled_obj_iff.1 h).2 (key, v) (List.mem_append_right _ List.mem_cons_self)

theorem put (key : String) {v : Json} (inside : v.Settled) :
    (obj (Members.put key v members)).Settled := by
  rw [settled_obj_iff] at h ⊢
  refine ⟨h.1.put key v, fun m hm => ?_⟩
  rcases Members.mem_put hm with rfl | hm
  · exact inside
  · exact h.2 m hm

theorem erase (key : String) : (obj (Members.erase key members)).Settled := by
  rw [settled_obj_iff] at h ⊢
  exact ⟨h.1.erase key, fun m hm => h.2 m (List.mem_of_mem_filter hm)⟩

end Settled

/-- Nothing is left to settle in a settled value. -/
theorem settled_settle (v : Json) : v.settle.Settled := by
  induction v using Json.induction with
  | arr items inside =>
    rw [settle_arr, settled_arr_iff]
    intro w hw
    obtain ⟨v, hv, rfl⟩ := List.mem_map.1 hw
    exact inside v hv
  | obj members inside =>
    rw [settle_obj, settled_obj_iff]
    refine ⟨Members.distinct_settle _, fun m hm => ?_⟩
    obtain ⟨n, mem, rfl⟩ := List.mem_map.1 (Members.mem_settle hm)
    exact inside n mem
  | _ => rfl

theorem distinct_fields (v : Json) : Members.Distinct v.fields := by
  cases v with
  | obj members =>
    rw [fields, settle_obj]
    exact Members.distinct_settle _
  | _ => exact List.nodup_nil

end Json

end WorkflowLint
