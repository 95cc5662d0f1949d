import WorkflowLint.Rules.Walk

/-!
# What a walk records

The record of a walk is a function of the activities it has visited, in the order of `preorder`.
`Walk.Records` says which; visiting one activity keeps it (`Records.enter`), and so does visiting a
node with all that is below it (`Records.visit`), whatever was visited before.
-/

set_option autoImplicit false

namespace WorkflowLint

/-- The activity calls the workflow with this identifier. -/
def Activity.calls (id : String) (a : Activity) : Bool :=
  a.isSubworkflow && a.workflowId == some id

namespace Walk

theorem visitAll_append (w : Walk) (front back : List Action) :
    w.visitAll (front ++ back) = (w.visitAll front).visitAll back := by
  induction front generalizing w with
  | nil => rfl
  | cons a rest ih => exact ih (w.visit a)

/-- The walk has visited these activities, in this order. -/
structure Records (visited : List Activity) (w : Walk) : Prop where
  found : w.found = (visited.flatMap Rules.activity).reverse
  count : w.count = visited.length
  types : w.types = (visited.filterMap Activity.type).eraseDups
  calls : ∀ id, w.calls.lookup id = (visited.find? (Activity.calls id)).map Activity.call

theorem records_start : Records [] start := ⟨rfl, rfl, rfl, fun _ => rfl⟩

theorem noteType_eraseDups (a : Activity) (types : List String) :
    noteType a types.eraseDups = (types ++ a.type.toList).eraseDups := by
  unfold noteType
  cases a.type with
  | none => simp
  | some type =>
    rw [List.eraseDups_append, Option.toList_some]
    by_cases h : type ∈ types
    · simp [h, List.removeAll]
    · simp [h, List.removeAll, List.eraseDups_cons]

/-- Whoever called first answers. -/
theorem lookup_noteCall (a : Activity) (calls : List (String × Call)) (id : String) :
    (noteCall a calls).lookup id =
      (calls.lookup id).or (if a.workflowId = some id then some a.call else none) := by
  unfold noteCall
  cases a.workflowId with
  | none => simp
  | some called =>
    dsimp only
    by_cases known : (calls.lookup called).isSome
    · rw [if_pos known]
      by_cases same : called = id
      · rw [same] at known
        rw [Option.or_eq_left_of_isSome known]
      · simp [same]
    · rw [if_neg known, lookup_cons_ite]
      by_cases same : called = id
      · rw [same, Option.not_isSome_iff_eq_none] at known
        simp [same, known]
      · simp [same, Ne.symm same]

/-- One more activity is recorded as the last. -/
theorem Records.enter {visited : List Activity} {w : Walk} (h : Records visited w) (a : Activity) :
    Records (visited ++ [a]) (w.enter a) where
  found := by
    simp [Walk.enter, h.found]
  count := by
    simp [Walk.enter, h.count]
  types := by
    have one : [a].filterMap Activity.type = a.type.toList := by
      cases e : a.type <;> simp [e]
    rw [Walk.enter, h.types, noteType_eraseDups, List.filterMap_append, one]
  calls := by
    intro id
    have one : [a].find? (Activity.calls id) = if Activity.calls id a then some a else none := by
      simp [List.find?_cons]
      cases Activity.calls id a <;> rfl
    rw [List.find?_append, one, Option.map_or, ← h.calls]
    unfold Walk.enter Activity.calls
    cases a.isSubworkflow with
    | false => simp
    | true =>
      simp only [if_true, lookup_noteCall, Bool.true_and, beq_iff_eq]
      split <;> rfl

mutual

theorem Records.visit {visited : List Activity} {w : Walk} (h : Records visited w) :
    ∀ node : Action, Records (visited ++ node.preorder) (w.visit node)
  | ⟨activity, blocks, actions⟩ => by
    have below := ((h.enter activity).visitAll blocks).visitAll actions
    rw [List.append_assoc, List.append_assoc] at below
    exact below

theorem Records.visitAll {visited : List Activity} {w : Walk} (h : Records visited w) :
    ∀ forest : List Action, Records (visited ++ Action.preorderAll forest) (w.visitAll forest)
  | [] => by
    rw [Action.preorderAll, List.append_nil]
    exact h
  | node :: rest => by
    have behind := (h.visit node).visitAll rest
    rw [List.append_assoc] at behind
    exact behind

end

end Walk

/-- The walk over a document records its activities. -/
theorem Document.records_walk (d : Document) : Walk.Records d.activities d.walk :=
  Walk.records_start.visitAll d.forest

end WorkflowLint
