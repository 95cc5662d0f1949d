import Mathlib.Data.List.Forall2
import Mathlib.Data.List.Perm.Basic
import Mathlib.Data.String.Basic
import WorkflowLint.Proofs.Json.Settled

/-!
# The order of keys

`Json.Permuted` relates values that are equal up to the order in which the members of objects stand,
at any depth. Of settled values (`Json.Alike`) a look-up finds the same but for such an order again
(`Alike.get?`), so a reading is blind to the order of keys (`Json.OrderBlind`) if it is made of
look-ups and in the end shows no object. The canonical form is another such reading
(`Alike.canonical_eq`).
-/

set_option autoImplicit false

namespace WorkflowLint

/-- Readings that agree on what is related one by one agree on the lists. -/
theorem map_eq_of_forall₂ {α β γ : Type} {R : α → β → Prop} {f : α → γ} {g : β → γ} {xs : List α}
    {ys : List β} (h : List.Forall₂ R xs ys) (same : ∀ x ∈ xs, ∀ y, R x y → f x = g y) :
    xs.map f = ys.map g := by
  induction h with
  | nil => rfl
  | cons first _ ih =>
    obtain ⟨here, others⟩ := List.forall_mem_cons.1 same
    rw [List.map_cons, List.map_cons, here _ first, ih others]

/-- What is related as options is nothing on both sides, or related. -/
@[elab_as_elim]
theorem rel_cases {α β : Type} {R : α → β → Prop} {motive : Option α → Option β → Prop}
    {a : Option α} {b : Option β} (h : Option.Rel R a b) (none : motive none none)
    (some : ∀ x y, R x y → motive (some x) (some y)) : motive a b := by
  cases h with
  | none => exact none
  | some related => exact some _ _ related

namespace Json

/-- The values are equal up to the order of the members of objects. -/
inductive Permuted : Json → Json → Prop
  | same (v : Json) : Permuted v v
  | arr {xs ys : List Json} (items : List.Forall₂ Permuted xs ys) : Permuted (.arr xs) (.arr ys)
  /-- The members change places (`permuted`), then their values are permuted as well. -/
  | obj {ms mid ns : Members Json} (permuted : ms.Perm mid)
    (keys : mid.map Prod.fst = ns.map Prod.fst)
    (values : List.Forall₂ Permuted (mid.map Prod.snd) (ns.map Prod.snd)) :
    Permuted (.obj ms) (.obj ns)

/-- Settled values that are equal up to the order of keys. -/
structure Alike (v w : Json) : Prop where
  left : v.Settled
  right : w.Settled
  permuted : Permuted v w

theorem Settled.alike {v : Json} (h : v.Settled) : v.Alike v := ⟨h, h, .same v⟩

/-- The reading does not see in which order keys stand. -/
def OrderBlind {β : Type} (see : Json → β) : Prop := ∀ ⦃v w : Json⦄, v.Alike w → see v = see w

end Json

namespace Members

variable {α : Type}

theorem lookup_eq_some_iff {members : Members α} (h : Distinct members) (key : String) (value : α) :
    members.lookup key = some value ↔ (key, value) ∈ members := by
  induction members with
  | nil => simp
  | cons m rest ih =>
    obtain ⟨k, v⟩ := m
    obtain ⟨fresh, distinct⟩ := List.nodup_cons.1 h
    rw [lookup_cons_ite, List.mem_cons]
    by_cases here : key = k
    · subst here
      have absent : (key, value) ∉ rest := fun mem => fresh (List.mem_map.2 ⟨_, mem, rfl⟩)
      simp [absent, eq_comm]
    · simp [here, ih distinct]

/-- Where no key is given twice, the order of the members does not matter for a look-up. -/
theorem lookup_perm {members members' : Members α} (h : Distinct members)
    (permuted : members.Perm members') (key : String) :
    members.lookup key = members'.lookup key := by
  have distinct : Distinct members' := (permuted.map Prod.fst).nodup_iff.1 h
  refine Option.ext fun value => ?_
  rw [lookup_eq_some_iff h, lookup_eq_some_iff distinct, permuted.mem_iff]

theorem lookup_reverse {members : Members α} (h : Distinct members) (key : String) :
    members.reverse.lookup key = members.lookup key :=
  (lookup_perm h (List.reverse_perm members).symm key).symm

/-- Members with the same keys in the same order, and related values. -/
def Paired (R : α → α → Prop) (members members' : Members α) : Prop :=
  List.Forall₂ (fun m n => m.1 = n.1 ∧ R m.2 n.2) members members'

theorem paired_iff {R : α → α → Prop} {members members' : Members α} :
    Paired R members members' ↔ members.map Prod.fst = members'.map Prod.fst ∧
      List.Forall₂ R (members.map Prod.snd) (members'.map Prod.snd) := by
  have keys : members.map Prod.fst = members'.map Prod.fst ↔
      List.Forall₂ (fun m n => m.1 = n.1) members members' := by
    rw [← List.forall₂_eq_eq_eq, List.forall₂_map_left_iff, List.forall₂_map_right_iff]
  rw [keys, List.forall₂_map_left_iff, List.forall₂_map_right_iff]
  constructor
  · exact fun h => ⟨h.imp fun _ _ both => both.1, h.imp fun _ _ both => both.2⟩
  · exact fun h => List.Forall₂.mp (fun _ _ key value => ⟨key, value⟩) h.1 h.2

theorem Paired.lookup {R : α → α → Prop} {members members' : Members α}
    (h : Paired R members members') (key : String) :
    Option.Rel R (members.lookup key) (members'.lookup key) := by
  induction h with
  | nil => exact .none
  | @cons m n ms ns first _ ih =>
    obtain ⟨k, v⟩ := m
    obtain ⟨l, w⟩ := n
    obtain ⟨rfl, related⟩ : k = l ∧ R v w := first
    rw [lookup_cons_ite, lookup_cons_ite]
    split
    · exact .some related
    · exact ih

/-- The members of two objects that are equal up to the order of keys. -/
structure Alike (members members' : Members Json) : Prop where
  distinct : Distinct members
  paired : ∃ between, members.Perm between ∧ Paired Json.Alike between members'

theorem alike_nil : Alike [] [] := ⟨List.nodup_nil, [], List.Perm.nil, .nil⟩

namespace Alike

variable {members members' : Members Json} (h : Alike members members')

include h

theorem perm_keys : (members.map Prod.fst).Perm (members'.map Prod.fst) := by
  obtain ⟨between, permuted, paired⟩ := h.paired
  rw [← (paired_iff.1 paired).1]
  exact permuted.map Prod.fst

theorem distinct_right : Distinct members' := h.perm_keys.nodup_iff.1 h.distinct

theorem lookup (key : String) :
    Option.Rel Json.Alike (members.lookup key) (members'.lookup key) := by
  obtain ⟨between, permuted, paired⟩ := h.paired
  rw [lookup_perm h.distinct permuted]
  exact paired.lookup key

end Alike

end Members

namespace Json

theorem isObject_settle (v : Json) : v.settle.isObject = v.isObject := by
  cases v <;> rfl

theorem fields_settle (v : Json) : v.settle.fields = v.fields := by
  have settled : v.settle.settle = v.settle := settled_settle v
  rw [fields, settled, fields]

theorem get?_settle (v : Json) (key : String) : v.settle.get? key = (v.get? key).map settle := by
  rw [← lookup_fields]
  by_cases object : v.isObject
  · rw [settle_of_isObject object]
    exact Members.lookup_reverse v.distinct_fields key
  · rw [lookup_fields, get?_of_not_isObject object, get?_of_not_isObject]
    · rfl
    · rw [isObject_settle]
      exact object

/-- A value is permuted by an arrangement of the members of all its objects. -/
theorem permuted_rearrange {f : Members Json → Members Json}
    (h : ∀ members, List.Perm members (f members)) (v : Json) : Permuted v (v.rearrange f) := by
  induction v using Json.induction with
  | arr items inside =>
    rw [rearrange, rearrangeItems_eq_map]
    exact .arr (List.forall₂_map_right_iff.2 (List.forall₂_same.2 inside))
  | obj members inside =>
    rw [rearrange, rearrangeMembers_eq_map]
    have values : Members.Paired Permuted members (members.map fun m => (m.1, m.2.rearrange f)) :=
      List.forall₂_map_right_iff.2 (List.forall₂_same.2 fun m hm => ⟨rfl, inside m hm⟩)
    -- the values are permuted before the members change places; `Permuted` has it the other way
    obtain ⟨between, permuted, paired⟩ : Relation.Comp List.Perm (Members.Paired Permuted) members
        (f (members.map fun m => (m.1, m.2.rearrange f))) := by
      unfold Members.Paired
      rw [← List.forall₂_comp_perm_eq_perm_comp_forall₂]
      exact ⟨_, values, h _⟩
    obtain ⟨keys, values⟩ := Members.paired_iff.1 paired
    exact .obj permuted keys values
  | _ => exact .same _

/-- A member of a settled object is settled. -/
theorem Settled.of_mem {members : Members Json} (h : (obj members).Settled) {m : String × Json}
    (mem : m ∈ members) : m.2.Settled :=
  (settled_obj_iff.1 h).2 m mem

namespace Alike

theorem of_forall₂ {xs ys : List Json} (left : ∀ x ∈ xs, x.Settled) (right : ∀ y ∈ ys, y.Settled)
    (h : List.Forall₂ Permuted xs ys) : List.Forall₂ Alike xs ys := by
  induction h with
  | nil => exact .nil
  | cons first _ ih =>
    obtain ⟨here, others⟩ := List.forall_mem_cons.1 left
    obtain ⟨here', others'⟩ := List.forall_mem_cons.1 right
    exact .cons ⟨here, here', first⟩ (ih others others')

variable {v w : Json} (h : v.Alike w)

include h

/-- The members of objects that are alike are alike. -/
theorem members? : Option.Rel Members.Alike v.members? w.members? := by
  obtain ⟨left, right, permuted⟩ := h
  cases permuted with
  | same =>
    cases v with
    | obj ms =>
      refine .some ⟨(settled_obj_iff.1 left).1, ms, List.Perm.refl ms, ?_⟩
      exact List.forall₂_same.2 fun m hm => ⟨rfl, (left.of_mem hm).alike⟩
    | _ => exact .none
  | arr => exact .none
  | @obj ms mid ns permuted keys values =>
    have settled (x : Json) (hx : x ∈ mid.map Prod.snd) : x.Settled := by
      obtain ⟨m, hm, rfl⟩ := List.mem_map.1 hx
      exact left.of_mem (permuted.mem_iff.2 hm)
    have settled' (y : Json) (hy : y ∈ ns.map Prod.snd) : y.Settled := by
      obtain ⟨n, hn, rfl⟩ := List.mem_map.1 hy
      exact right.of_mem hn
    exact .some ⟨(settled_obj_iff.1 left).1, mid, permuted,
      Members.paired_iff.2 ⟨keys, of_forall₂ settled settled' values⟩⟩

/-- So are the items of lists, one by one. -/
theorem items? : Option.Rel (List.Forall₂ Alike) v.items? w.items? := by
  obtain ⟨left, right, permuted⟩ := h
  cases permuted with
  | same =>
    cases v with
    | arr xs => exact .some (List.forall₂_same.2 fun x hx => (settled_arr_iff.1 left x hx).alike)
    | _ => exact .none
  | arr items => exact .some (of_forall₂ (settled_arr_iff.1 left) (settled_arr_iff.1 right) items)
  | obj => exact .none

/-- A look-up finds values that are alike. -/
theorem get? (key : String) : Option.Rel Alike (v.get? key) (w.get? key) := by
  unfold Json.get?
  refine rel_cases h.members? .none fun ms ns alike => ?_
  rw [Option.bind_some, Option.bind_some, Members.lookup_reverse alike.distinct,
    Members.lookup_reverse alike.distinct_right]
  exact alike.lookup key

end Alike

/-- What stands at a path is alike. -/
theorem Alike.at? (path : List String) {v w : Json} (h : v.Alike w) :
    Option.Rel Alike (v.at? path) (w.at? path) := by
  induction path generalizing v w with
  | nil => exact .some h
  | cons key rest ih =>
    unfold Json.at?
    exact rel_cases (h.get? key) .none fun x y alike => ih alike

/-- The items of lists that are alike are alike one by one; anything else has no items. -/
theorem Alike.items_getD {a b : Option Json} (h : Option.Rel Alike a b) :
    List.Forall₂ Alike ((a.bind Json.items?).getD []) ((b.bind Json.items?).getD []) := by
  cases h with
  | none => exact .nil
  | @some v w alike =>
    rw [Option.bind_some, Option.bind_some]
    exact rel_cases alike.items? .nil fun xs ys items => items

theorem Alike.itemsAt {v w : Json} (h : v.Alike w) (key : String) :
    List.Forall₂ Alike (v.itemsAt key) (w.itemsAt key) :=
  items_getD (h.get? key)

/-- The members of objects that are alike are alike; anything else has no members. -/
theorem Alike.members_getD {v w : Json} (h : v.Alike w) :
    Members.Alike (v.members?.getD []) (w.members?.getD []) :=
  rel_cases h.members? Members.alike_nil fun _ _ members => members

theorem Alike.fields {v w : Json} (h : v.Alike w) : Members.Alike v.fields w.fields := by
  have left : v.settle = v := h.left
  have right : w.settle = w := h.right
  rw [Json.fields, Json.fields, left, right]
  exact h.members_getD

/-! ### Readings that are blind to the order of keys -/

namespace OrderBlind

variable {β : Type}

/-- A reading that does not look into lists and objects is blind. -/
theorem of_shape {see : Json → β} (arr : ∀ xs ys, see (.arr xs) = see (.arr ys))
    (obj : ∀ ms ns, see (.obj ms) = see (.obj ns)) : OrderBlind see := by
  rintro _ _ ⟨-, -, permuted⟩
  cases permuted with
  | same => rfl
  | arr => exact arr _ _
  | obj => exact obj _ _

theorem string? : OrderBlind Json.string? := of_shape (fun _ _ => rfl) fun _ _ => rfl

theorem bool? : OrderBlind Json.bool? := of_shape (fun _ _ => rfl) fun _ _ => rfl

theorem isObject : OrderBlind Json.isObject := of_shape (fun _ _ => rfl) fun _ _ => rfl

theorem isTruthy : OrderBlind Json.isTruthy := of_shape (fun _ _ => rfl) fun _ _ => rfl

section

variable {a b : Option Json} (alike : Option.Rel Json.Alike a b)

include alike

theorem map {see : Json → β} (h : OrderBlind see) : a.map see = b.map see :=
  rel_cases alike rfl fun _ _ same => congrArg some (h same)

theorem bind {see : Json → Option β} (h : OrderBlind see) : a.bind see = b.bind see :=
  rel_cases alike rfl fun _ _ same => h same

theorem any {see : Json → Bool} (h : OrderBlind see) : a.any see = b.any see :=
  rel_cases alike rfl fun _ _ same => h same

end

theorem list_map {see : Json → β} (h : OrderBlind see) {xs ys : List Json}
    (alike : List.Forall₂ Json.Alike xs ys) : xs.map see = ys.map see :=
  map_eq_of_forall₂ alike fun _ _ _ same => h same

theorem list_filterMap {see : Json → Option β} (h : OrderBlind see) {xs ys : List Json}
    (alike : List.Forall₂ Json.Alike xs ys) : xs.filterMap see = ys.filterMap see := by
  have same := congrArg (List.filterMap id) (h.list_map alike)
  rwa [List.filterMap_map, List.filterMap_map] at same

/-- What is read of a list is blind if it is item by item. -/
theorem items {see : List Json → β}
    (h : ∀ xs ys, List.Forall₂ Json.Alike xs ys → see xs = see ys) :
    OrderBlind fun v => v.items?.map see := by
  intro v w alike
  dsimp only
  exact rel_cases alike.items? rfl fun xs ys items => congrArg some (h xs ys items)

theorem listOf? {read? : Json → Option β} (h : OrderBlind read?) :
    OrderBlind (Json.listOf? read?) :=
  items fun _ _ => h.list_filterMap

end OrderBlind
end Json

/-! ### The canonical form -/

namespace Members

/-- Insertions of two keys can be made in either order: each finds its place by itself. -/
theorem insert_comm {α : Type} {key key' : String} (h : key ≠ key') (v w : α)
    (members : Members α) :
    insert key v (insert key' w members) = insert key' w (insert key v members) := by
  induction members with
  | nil => grind [insert]
  | cons m rest ih => grind [insert]

/-- Sorting forgets in which order the members stood. -/
theorem sort_perm {α : Type} {members members' : Members α} (h : Distinct members)
    (permuted : members.Perm members') : sort members = sort members' := by
  refine permuted.foldl_eq' (fun m hm n hn kept => ?_) []
  by_cases same : m.1 = n.1
  · have value : members.lookup m.1 = some n.2 := (lookup_eq_some_iff h _ _).2 (same ▸ hn)
    rw [(lookup_eq_some_iff h _ _).2 hm, Option.some_inj] at value
    rw [same, value]
  · exact insert_comm (Ne.symm same) n.2 m.2 kept

namespace Alike

variable {members members' : Members Json} (h : Alike members members')

include h

/-- Sorting the members by key brings the values together that are alike. -/
theorem sort_map {α : Type} {f : Json → α}
    (same : ∀ m ∈ members, ∀ w, m.2.Alike w → f m.2 = f w) :
    sort (members.map fun m => (m.1, f m.2)) = sort (members'.map fun m => (m.1, f m.2)) := by
  obtain ⟨between, permuted, paired⟩ := h.paired
  have distinct : Distinct (members.map fun m => (m.1, f m.2)) := by
    rw [Distinct, List.map_map]
    exact h.distinct
  have read : between.map (fun m => (m.1, f m.2)) = members'.map fun m => (m.1, f m.2) :=
    map_eq_of_forall₂ paired fun m hm n both =>
      Prod.ext both.1 (same m (permuted.mem_iff.2 hm) n.2 both.2)
  rw [sort_perm distinct (permuted.map _), read]

end Alike

end Members

namespace Json

theorem canonical_arr (items : List Json) : (arr items).canonical = .arr (items.map canonical) := by
  rw [canonical, rearrange, rearrangeItems_eq_map]
  rfl

theorem canonical_obj (members : Members Json) :
    (obj members).canonical = .obj (Members.sort (members.map fun m => (m.1, m.2.canonical))) := by
  rw [canonical, rearrange, rearrangeMembers_eq_map]
  rfl

theorem Alike.exists_arr {xs : List Json} {w : Json} (h : (arr xs).Alike w) :
    ∃ ys, w = .arr ys ∧ List.Forall₂ Alike xs ys := by
  have items := h.items?
  generalize found : w.items? = ys at items
  cases items with
  | some alike => exact ⟨_, items?_eq_some_iff.1 found, alike⟩

theorem Alike.exists_obj {ms : Members Json} {w : Json} (h : (obj ms).Alike w) :
    ∃ ns, w = .obj ns ∧ Members.Alike ms ns := by
  have members := h.members?
  generalize found : w.members? = ns at members
  cases members with
  | some alike => exact ⟨_, members?_eq_some_iff.1 found, alike⟩

/-- **The canonical form forgets the order of keys**, at every depth. -/
theorem Alike.canonical_eq {v w : Json} (h : v.Alike w) : v.canonical = w.canonical := by
  induction v using Json.induction generalizing w with
  | arr xs inside =>
    obtain ⟨ys, rfl, alike⟩ := h.exists_arr
    have same : xs.map canonical = ys.map canonical :=
      map_eq_of_forall₂ alike fun x hx y same => inside x hx same
    rw [canonical_arr, canonical_arr, same]
  | obj ms inside =>
    obtain ⟨ns, rfl, alike⟩ := h.exists_obj
    rw [canonical_obj, canonical_obj, alike.sort_map fun m hm x same => inside m hm same]
  | _ =>
    cases h.permuted
    rfl

theorem OrderBlind.canonical : OrderBlind Json.canonical := fun _ _ h => h.canonical_eq

end Json

end WorkflowLint
