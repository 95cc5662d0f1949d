import WorkflowLint.Proofs.Json.Path

/-!
# Changing members

What is left of the members of an object when one of them is replaced, added or taken out: a look-up
of another key finds what it found, and so does every reading that keeps to other keys.
-/

set_option autoImplicit false

namespace WorkflowLint

namespace Members

variable {α : Type}

/-- The members without those of a key. -/
def erase (key : String) (members : Members α) : Members α :=
  members.filter fun m => m.1 != key

theorem lookup_filter (p : String → Bool) (members : Members α) (k : String) :
    (members.filter fun m => p m.1).lookup k = if p k then members.lookup k else none := by
  induction members with
  | nil => simp
  | cons m rest ih =>
    obtain ⟨k', v⟩ := m
    rw [List.filter_cons, lookup_cons_ite]
    by_cases same : k = k'
    · subst same
      by_cases kept : p k
      · simp [kept]
      · simpa [kept] using ih
    · by_cases kept : p k' <;> simp [kept, lookup_cons_ite, same, ih]

theorem lookup_erase (key : String) (members : Members α) (k : String) :
    (erase key members).lookup k = if k = key then none else members.lookup k := by
  rw [erase, lookup_filter fun k => k != key]
  by_cases h : k = key <;> simp [h]

/-- A reading of all members that takes two values of a key for the same does not see one of them
put in the place of the other. -/
theorem map_put {β : Type} (f : α → β) {key : String} {members : Members α} {v w : α}
    (found : members.lookup key = some v) (same : f v = f w) :
    (put key w members).map (fun m => (m.1, f m.2)) = members.map fun m => (m.1, f m.2) := by
  induction members with
  | nil => cases found
  | cons m rest ih =>
    obtain ⟨k, x⟩ := m
    rw [lookup_cons_ite] at found
    by_cases here : key = k
    · rw [if_pos here] at found
      cases found
      simp [put, here, same]
    · rw [if_neg here] at found
      simp [put, Ne.symm here, ih found]

/-- A reading of other keys does not see what is put under a key. -/
theorem filter_put (p : String → Bool) {key : String} (h : p key = false) (value : α)
    (members : Members α) :
    (put key value members).filter (fun m => p m.1) = members.filter fun m => p m.1 := by
  induction members with
  | nil => simp [put, h]
  | cons m rest ih =>
    obtain ⟨k, x⟩ := m
    by_cases here : k = key
    · subst here
      simp [put, h]
    · simp [put, here, List.filter_cons, ih]

theorem filter_erase (p : String → Bool) {key : String} (h : p key = false) (members : Members α) :
    (erase key members).filter (fun m => p m.1) = members.filter fun m => p m.1 := by
  rw [erase, List.filter_filter]
  refine List.filter_congr fun m _ => ?_
  by_cases here : m.1 = key <;> simp [here, h]

/-- The last member of a key is found among the members of that key. -/
theorem lookup_reverse_congr {members members' : Members α} {k : String}
    (h : members.filter (fun m => m.1 == k) = members'.filter fun m => m.1 == k) :
    members.reverse.lookup k = members'.reverse.lookup k := by
  have among (ms : Members α) : ms.reverse.lookup k = (ms.filter fun m => m.1 == k).reverse.lookup k := by
    rw [← List.filter_reverse, lookup_filter fun key => key == k]
    simp
  rw [among, h, ← among]

end Members

namespace Json

/-- The values have the same under every key but one; under that, either may have anything. -/
def EqualBut (key : String) (v w : Json) : Prop := ∀ k, k ≠ key → v.get? k = w.get? k

theorem EqualBut.itemsAt {key : String} {v w : Json} (h : v.EqualBut key w) (list : String)
    (other : list ≠ key) : v.itemsAt list = w.itemsAt list := by
  rw [Json.itemsAt, h list other, Json.itemsAt]

theorem equalBut_put (key : String) (value : Json) (members : Members Json) :
    (obj members).EqualBut key (obj (Members.put key value members)) := fun k other =>
  Members.lookup_reverse_congr (Members.filter_put (fun k' => k' == k)
    (beq_false_of_ne other.symm) value members).symm

theorem equalBut_erase (key : String) (members : Members Json) :
    (obj members).EqualBut key (obj (Members.erase key members)) := fun k other =>
  Members.lookup_reverse_congr (Members.filter_erase (fun k' => k' == k)
    (beq_false_of_ne other.symm) members).symm

end Json

end WorkflowLint
