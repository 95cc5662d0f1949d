import WorkflowLint.Json.Basic
import WorkflowLint.Lookup

/-!
# Members of an object

A text may give a key twice. Two readings of the members of an object settle that: `Members.settle`
keeps each key where it first stood and gives it the value it had last, `Members.sort` keeps the
last value as well but orders the keys by code point. `Json.rearrange` applies such a reading to
every object of a value, the innermost first; `Json.settle` and `Json.canonical` are the two
readings of a whole value. Look-ups (`List.lookup`) see the same members in both:
`lookup_settle` and `lookup_sort` reduce them to the last member of that key.
-/

set_option autoImplicit false

namespace WorkflowLint

/-- The members of an object. -/
abbrev Members (α : Type) := List (String × α)

namespace Members

variable {α : Type}

/-- Gives `key` the value: in place where the key stands already, else at the end. -/
def put (key : String) (value : α) : Members α → Members α
  | [] => [(key, value)]
  | (k, v) :: rest => if k = key then (k, value) :: rest else (k, v) :: put key value rest

/-- Gives `key` the value in a list sorted by key, replacing the one it has. -/
def insert (key : String) (value : α) : Members α → Members α
  | [] => [(key, value)]
  | (k, v) :: rest =>
    if key < k then (key, value) :: (k, v) :: rest
    else if key = k then (key, value) :: rest
    else (k, v) :: insert key value rest

/-- Each key once, where it first stood, with its last value. -/
def settle (members : Members α) : Members α :=
  members.foldl (fun kept m => put m.1 m.2 kept) []

/-- Each key once, in code point order, with its last value. -/
def sort (members : Members α) : Members α :=
  members.foldl (fun kept m => insert m.1 m.2 kept) []

theorem settle_snoc (members : Members α) (m : String × α) :
    settle (members ++ [m]) = put m.1 m.2 (settle members) := by
  simp [settle, List.foldl_append]

theorem sort_snoc (members : Members α) (m : String × α) :
    sort (members ++ [m]) = insert m.1 m.2 (sort members) := by
  simp [sort, List.foldl_append]

theorem lookup_put (key : String) (value : α) (members : Members α) (k : String) :
    (put key value members).lookup k = if k = key then some value else members.lookup k := by
  induction members with
  | nil => simp [put, lookup_cons_ite]
  | cons m rest ih =>
    obtain ⟨k', v⟩ := m
    by_cases h : k' = key
    · subst h
      by_cases hk : k = k' <;> simp [put, lookup_cons_ite, hk]
    · by_cases hk : k = k'
      · subst hk; simp [put, h]
      · simp [put, lookup_cons_ite, h, hk, ih]

theorem lookup_insert (key : String) (value : α) (members : Members α) (k : String) :
    (insert key value members).lookup k = if k = key then some value else members.lookup k := by
  induction members with
  | nil => simp [insert, lookup_cons_ite]
  | cons m rest ih =>
    obtain ⟨k', v⟩ := m
    by_cases h : key < k'
    · by_cases hk : k = key <;> simp [insert, lookup_cons_ite, h, hk]
    · by_cases he : key = k'
      · subst he
        by_cases hk : k = key <;> simp [insert, lookup_cons_ite, hk]
      · by_cases hk : k = k'
        · subst hk; simp [insert, h, he, Ne.symm he]
        · simp [insert, lookup_cons_ite, h, he, hk, ih]

/-- Settled members answer a look-up with the last member of the key. -/
theorem lookup_settle (members : Members α) (k : String) :
    (settle members).lookup k = members.reverse.lookup k := by
  suffices h : ∀ ms : Members α, (settle ms.reverse).lookup k = ms.lookup k by
    simpa using h members.reverse
  intro ms
  induction ms with
  | nil => rfl
  | cons m ms ih => rw [List.reverse_cons, settle_snoc, lookup_put, ih, lookup_cons_ite]

/-- Sorted members answer a look-up with the last member of the key. -/
theorem lookup_sort (members : Members α) (k : String) :
    (sort members).lookup k = members.reverse.lookup k := by
  suffices h : ∀ ms : Members α, (sort ms.reverse).lookup k = ms.lookup k by
    simpa using h members.reverse
  intro ms
  induction ms with
  | nil => rfl
  | cons m ms ih => rw [List.reverse_cons, sort_snoc, lookup_insert, ih, lookup_cons_ite]

end Members

namespace Json

mutual

/-- Applies `f` to the members of every object, the innermost objects first. -/
def rearrange (f : Members Json → Members Json) : Json → Json
  | .arr items => .arr (rearrangeItems f items)
  | .obj members => .obj (f (rearrangeMembers f members))
  | .null => .null
  | .bool b => .bool b
  | .num n => .num n
  | .str s => .str s

def rearrangeItems (f : Members Json → Members Json) : List Json → List Json
  | [] => []
  | v :: rest => rearrange f v :: rearrangeItems f rest

def rearrangeMembers (f : Members Json → Members Json) :
    Members Json → Members Json
  | [] => []
  | (k, v) :: rest => (k, rearrange f v) :: rearrangeMembers f rest

end

theorem rearrangeItems_eq_map (f : Members Json → Members Json)
    (items : List Json) : rearrangeItems f items = items.map (rearrange f) := by
  induction items with
  | nil => rfl
  | cons v rest ih => simp [rearrangeItems, ih]

theorem rearrangeMembers_eq_map (f : Members Json → Members Json)
    (members : Members Json) :
    rearrangeMembers f members = members.map fun m => (m.1, rearrange f m.2) := by
  induction members with
  | nil => rfl
  | cons m rest ih => obtain ⟨k, v⟩ := m; simp [rearrangeMembers, ih]

/-- The value as a document means it: a repeated key counts once, with its last value. -/
def settle (v : Json) : Json := v.rearrange Members.settle

/-- The value with the members of every object in one fixed order. -/
def canonical (v : Json) : Json := v.rearrange Members.sort

end Json

end WorkflowLint
