import Mathlib.Data.List.Induction
import Mathlib.Data.List.Sort
import WorkflowLint.Proofs.Json.KeyOrder

/-!
# Values in order

A value is `Ordered` if the keys of each of its objects grow, so that none is repeated. Two values are
the `Same` if they differ in nothing but the order of members and in members whose key comes again
behind them. The canonical form of a value is ordered, and no other ordered value is the same; so two
values are the same exactly if their canonical forms are equal (`canonical_eq_iff`).
-/

set_option autoImplicit false

namespace WorkflowLint

namespace Members

variable {α : Type}

theorem mem_insert {key : String} {value : α} {members : Members α} {m : String × α}
    (h : m ∈ insert key value members) : m = (key, value) ∨ m ∈ members := by
  induction members with
  | nil => exact .inl (List.mem_singleton.1 h)
  | cons n rest ih =>
    obtain ⟨k, v⟩ := n
    rw [insert] at h
    split at h
    · exact List.mem_cons.1 h
    split at h
    · exact (List.mem_cons.1 h).imp_right (List.mem_cons_of_mem _)
    · rcases List.mem_cons.1 h with rfl | h
      · exact .inr List.mem_cons_self
      · exact (ih h).imp_right (List.mem_cons_of_mem _)

theorem mem_sort {members : Members α} {m : String × α} (h : m ∈ sort members) : m ∈ members := by
  induction members using List.reverseRecOn with
  | nil => cases h
  | append_singleton members n ih =>
    rw [sort_snoc] at h
    rcases mem_insert h with rfl | h
    · exact List.mem_append_right _ List.mem_cons_self
    · exact List.mem_append_left _ (ih h)

/-- Each key is greater than those before it. -/
def Ordered (members : Members α) : Prop := members.Pairwise fun m n => m.1 < n.1

namespace Ordered

variable {members : Members α} (h : Ordered members)

include h

theorem distinct : Distinct members := by
  rw [Distinct, List.Nodup, List.pairwise_map]
  exact h.imp fun less => ne_of_lt less

theorem filter (p : String × α → Bool) : Ordered (members.filter p) := List.Pairwise.filter p h

theorem insert (key : String) (value : α) : Ordered (insert key value members) := by
  induction members with
  | nil => exact List.pairwise_singleton _ _
  | cons m rest ih =>
    obtain ⟨k, v⟩ := m
    obtain ⟨first, others⟩ := List.pairwise_cons.1 h
    rw [Members.insert]
    split
    · next less =>
      refine List.pairwise_cons.2 ⟨List.forall_mem_cons.2 ⟨less, fun n hn => ?_⟩, h⟩
      exact lt_trans less (first n hn)
    split
    · next same =>
      subst same
      exact List.pairwise_cons.2 ⟨first, others⟩
    · next notLess other =>
      refine List.pairwise_cons.2 ⟨fun n hn => ?_, ih others⟩
      rcases mem_insert hn with rfl | hn
      · exact lt_of_le_of_ne (not_lt.1 notLess) (Ne.symm other)
      · exact first n hn

end Ordered

theorem ordered_sort (members : Members α) : Ordered (sort members) := by
  induction members using List.reverseRecOn with
  | nil => exact List.Pairwise.nil
  | append_singleton members m ih =>
    rw [sort_snoc]
    exact ih.insert m.1 m.2

/-- Ordered members are known by their look-ups. -/
theorem Ordered.ext {members members' : Members α} (h : Ordered members) (h' : Ordered members')
    (same : ∀ key, members.lookup key = members'.lookup key) : members = members' := by
  have mem (m : String × α) : m ∈ members ↔ m ∈ members' := by
    rw [← lookup_eq_some_iff h.distinct, same, lookup_eq_some_iff h'.distinct]
  have permuted : members.Perm members' :=
    (List.perm_ext_iff_of_nodup h.distinct.of_map h'.distinct.of_map).2 mem
  exact permuted.eq_of_pairwise (fun m n _ _ less more => absurd more (lt_asymm less)) h h'

theorem Ordered.sort_eq {members : Members α} (h : Ordered members) : sort members = members :=
  (ordered_sort members).ext h fun key => by rw [lookup_sort, lookup_reverse h.distinct]

end Members

namespace Json

/-- The keys of each object in the value grow, at every depth. -/
inductive Ordered : Json → Prop
  | null : Ordered .null
  | bool (b : Bool) : Ordered (.bool b)
  | num (n : Number) : Ordered (.num n)
  | str (s : String) : Ordered (.str s)
  | arr {items : List Json} (inside : ∀ v ∈ items, Ordered v) : Ordered (.arr items)
  | obj {members : Members Json} (keys : Members.Ordered members)
      (inside : ∀ m ∈ members, Ordered m.2) :
    Ordered (.obj members)

/-- The values mean the same: the order of members does not count, nor does a member whose key comes
again. -/
inductive Same : Json → Json → Prop
  | refl (v : Json) : Same v v
  | arr {xs ys : List Json} (items : List.Forall₂ Same xs ys) : Same (.arr xs) (.arr ys)
  | obj {ms ns : Members Json}
      (members : ∀ key, Option.Rel Same ((obj ms).get? key) ((obj ns).get? key)) :
    Same (.obj ms) (.obj ns)

/-! ### The canonical form is ordered -/

theorem ordered_canonical (v : Json) : v.canonical.Ordered := by
  induction v using Json.induction with
  | null => exact .null
  | bool b => exact .bool b
  | num n => exact .num n
  | str s => exact .str s
  | arr items inside =>
    rw [canonical_arr]
    refine .arr fun w hw => ?_
    obtain ⟨v, hv, rfl⟩ := List.mem_map.1 hw
    exact inside v hv
  | obj members inside =>
    rw [canonical_obj]
    refine .obj (Members.ordered_sort _) fun m hm => ?_
    obtain ⟨n, hn, rfl⟩ := List.mem_map.1 (Members.mem_sort hm)
    exact inside n hn

/-- An ordered value is its own canonical form. -/
theorem Ordered.canonical_eq {v : Json} (h : v.Ordered) : v.canonical = v := by
  induction h with
  | @arr items _ ih =>
    rw [canonical_arr, List.map_congr_left ih, List.map_id']
  | @obj members keys _ ih =>
    have values : members.map (fun m => (m.1, m.2.canonical)) = members :=
      (List.map_congr_left fun m hm => congrArg (Prod.mk m.1) (ih m hm)).trans (List.map_id members)
    rw [canonical_obj, values, keys.sort_eq]
  | _ => rfl

@[simp] theorem canonical_canonical (v : Json) : v.canonical.canonical = v.canonical :=
  v.ordered_canonical.canonical_eq

/-! ### Equal canonical forms -/

theorem get?_canonical (v : Json) (key : String) :
    v.canonical.get? key = (v.get? key).map canonical := by
  cases v with
  | obj members =>
    rw [canonical_obj]
    show (Members.sort _).reverse.lookup key = (members.reverse.lookup key).map canonical
    rw [Members.lookup_reverse (Members.ordered_sort _).distinct, Members.lookup_sort,
      ← List.map_reverse, lookup_map_snd]
  | _ => rfl

/-- The canonical form of an object is known by what the object has under its keys. -/
theorem canonical_obj_congr {ms ns : Members Json}
    (same : ∀ key, ((obj ms).get? key).map canonical = ((obj ns).get? key).map canonical) :
    (obj ms).canonical = (obj ns).canonical := by
  rw [canonical_obj, canonical_obj]
  refine congrArg obj ((Members.ordered_sort _).ext (Members.ordered_sort _) fun key => ?_)
  rw [Members.lookup_sort, Members.lookup_sort, ← List.map_reverse, ← List.map_reverse,
    lookup_map_snd, lookup_map_snd]
  exact same key

theorem Same.canonical_eq {v w : Json} (h : v.Same w) : v.canonical = w.canonical := by
  induction v using Json.induction generalizing w with
  | arr xs inside =>
    cases h with
    | refl => rfl
    | arr items =>
      rw [canonical_arr, canonical_arr, map_eq_of_forall₂ items fun x hx y same => inside x hx same]
  | obj ms inside =>
    cases h with
    | refl => rfl
    | @obj _ ns members =>
      refine canonical_obj_congr fun key => ?_
      have under := members key
      generalize found : Json.get? (.obj ms) key = x at under ⊢
      generalize Json.get? (.obj ns) key = y at under ⊢
      cases under with
      | none => rfl
      | some same =>
        obtain ⟨_, e, mem⟩ := mem_of_get?_eq_some found
        cases e
        exact congrArg some (inside _ mem same)
  | _ =>
    cases h
    rfl

theorem same_of_canonical_eq {v w : Json} (h : v.canonical = w.canonical) : v.Same w := by
  -- values of two kinds have canonical forms of two kinds; only lists and objects go deeper
  induction v using Json.induction generalizing w with
  | arr xs inside =>
    cases w with
    | arr ys =>
      rw [canonical_arr, canonical_arr, arr.injEq, ← List.forall₂_eq_eq_eq,
        List.forall₂_map_left_iff, List.forall₂_map_right_iff] at h
      have each : ∀ x ∈ xs, ∀ w : Json, x.canonical = w.canonical → x.Same w :=
        fun x hx _ => inside x hx
      exact .arr (((List.forall₂_and_left xs ys).2 ⟨each, h⟩).imp fun x y both => both.1 y both.2)
    | obj ns =>
      rw [canonical_arr, canonical_obj] at h
      cases h
    | _ => cases h
  | obj ms inside =>
    cases w with
    | obj ns =>
      refine .obj fun key => ?_
      have under := get?_canonical (obj ms) key
      rw [h, get?_canonical] at under
      generalize found : Json.get? (.obj ms) key = x at under
      generalize Json.get? (.obj ns) key = y at under
      cases x with
      | none =>
        rw [Option.map_eq_none_iff.1 under]
        exact .none
      | some x =>
        obtain ⟨y, rfl, same⟩ := Option.map_eq_some_iff.1 under
        obtain ⟨_, e, mem⟩ := mem_of_get?_eq_some found
        cases e
        exact .some (inside _ mem same.symm)
    | arr ys =>
      rw [canonical_arr, canonical_obj] at h
      cases h
    | _ => cases h
  | _ =>
    cases w <;> cases h
    exact .refl _

/-- **Values are the same exactly if their canonical forms are equal.** -/
theorem canonical_eq_iff {v w : Json} : v.canonical = w.canonical ↔ v.Same w :=
  ⟨same_of_canonical_eq, Same.canonical_eq⟩

theorem same_canonical (v : Json) : v.Same v.canonical :=
  canonical_eq_iff.1 v.canonical_canonical.symm

/-- A value is the same when it is settled. -/
theorem canonical_settle (v : Json) : v.settle.canonical = v.canonical := by
  induction v using Json.induction with
  | arr items inside =>
    rw [settle_arr, canonical_arr, canonical_arr, List.map_map]
    exact congrArg arr (List.map_congr_left inside)
  | obj members inside =>
    have settled : (obj members).settle = .obj (obj members).fields := settle_of_isObject rfl
    rw [settled]
    refine canonical_obj_congr fun key => ?_
    rw [← settled, get?_settle, Option.map_map]
    cases found : Json.get? (.obj members) key with
    | none => rfl
    | some v =>
      obtain ⟨_, e, mem⟩ := mem_of_get?_eq_some found
      cases e
      exact congrArg some (inside _ mem)
  | _ => rfl

end Json

end WorkflowLint
