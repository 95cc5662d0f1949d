/-!
# Looking up a key

Lists of pairs are read with `List.lookup`: the first pair with the key counts.
-/

set_option autoImplicit false

namespace WorkflowLint

theorem lookup_cons_ite {κ α : Type} [DecidableEq κ] (key k : κ) (value : α)
    (rest : List (κ × α)) :
    ((k, value) :: rest).lookup key = if key = k then some value else rest.lookup key := by
  by_cases h : key = k
  · simp [h]
  · simp [List.lookup_cons, beq_false_of_ne h, h]

theorem lookup_map_snd {κ α β : Type} [DecidableEq κ] (f : α → β) (pairs : List (κ × α)) (key : κ) :
    (pairs.map fun p => (p.1, f p.2)).lookup key = (pairs.lookup key).map f := by
  induction pairs with
  | nil => rfl
  | cons p rest ih =>
    obtain ⟨k, a⟩ := p
    rw [List.map_cons, lookup_cons_ite, lookup_cons_ite, ih]
    split <;> rfl

end WorkflowLint
