import Mathlib.Logic.Relation
import WorkflowLint.Proofs.Document.Slots
import WorkflowLint.Proofs.Json.RoundTrip
import WorkflowLint.Proofs.Json.Settled
import WorkflowLint.Proofs.Outcome

/-!
# Cleaning a document up

A value of the wrong shape counts as an absent one. `Cleanup` takes one such value out of a document,
at any depth. Nobody who reads the document sees that (`Cleanup.seen_eq`), so after any number of
clean-ups its analysis is the same (`analyze_eq_of_cleanups`).
-/

set_option autoImplicit false

namespace WorkflowLint

/-- The second value comes from the first, which stands in the slot, by one clean-up: a member or an
item that does not fit is taken out, or a group that is no object becomes an empty one. -/
inductive Cleanup : Slot → Json → Json → Prop where
  | dropMember {part : Part} (key : String) {slot : Slot} {members : Members Json} {v : Json}
      (expected : part.members.lookup key = some slot) (found : members.lookup key = some v)
      (misfit : slot.fits v = false) :
      Cleanup (.object part) (.obj members) (.obj (Members.erase key members))
  | member {part : Part} (key : String) {slot : Slot} {members : Members Json} {v w : Json}
      (expected : part.members.lookup key = some slot) (found : members.lookup key = some v)
      (inside : Cleanup slot v w) :
      Cleanup (.object part) (.obj members) (.obj (Members.put key w members))
  | dropItem {part : Part} {v : Json} (before behind : List Json) (misfit : v.isObject = false) :
      Cleanup (.objects part) (.arr (before ++ v :: behind)) (.arr (before ++ behind))
  | item {part : Part} {v w : Json} (before behind : List Json)
      (inside : Cleanup (.object part) v w) :
      Cleanup (.objects part) (.arr (before ++ v :: behind)) (.arr (before ++ w :: behind))
  | declaration {v w : Json} (before behind : List Json)
      (inside : Cleanup (.object .declaration) v w) :
      Cleanup .declarations (.arr (before ++ v :: behind)) (.arr (before ++ w :: behind))
  | emptyGroup (id : String) {groups : Members Json} {v : Json}
      (found : groups.lookup id = some v) (misfit : v.isObject = false) :
      Cleanup .groups (.obj groups) (.obj (Members.put id (.obj []) groups))
  | group (id : String) {groups : Members Json} {v w : Json}
      (found : groups.lookup id = some v) (inside : Cleanup (.object .group) v w) :
      Cleanup .groups (.obj groups) (.obj (Members.put id w groups))

/-- **One clean-up is not seen**, neither where it is made nor from anywhere above. -/
theorem Cleanup.seen_eq {slot : Slot} {v w : Json} (h : Cleanup slot v w) :
    slot.seen (some v) = slot.seen (some w) := by
  -- by the place of the clean-up: the values around it are read alike
  induction h with
  | dropMember key expected found misfit =>
    exact congrArg some (Part.read_congr (Part.alike_erase expected found misfit))
  | member key expected found _ same =>
    exact congrArg some (Part.read_congr (Part.alike_put expected found same))
  | @dropItem part v before behind misfit =>
    have dropped : v.members?.map part.read = none := Slot.seen_of_misfit (.object part) misfit
    have items : (before ++ v :: behind).filterMap (fun x => x.members?.map part.read) =
        (before ++ behind).filterMap fun x => x.members?.map part.read := by
      simp only [List.filterMap_append, List.filterMap_cons, dropped]
    exact congrArg some items
  | @item part v w before behind _ same =>
    have kept : v.members?.map part.read = w.members?.map part.read := same
    have items : (before ++ v :: behind).filterMap (fun x => x.members?.map part.read) =
        (before ++ w :: behind).filterMap fun x => x.members?.map part.read := by
      simp only [List.filterMap_append, List.filterMap_cons, kept]
    exact congrArg some items
  | @declaration v w before behind _ same =>
    have items : (before ++ v :: behind).map Variable.ofJson? =
        (before ++ w :: behind).map Variable.ofJson? := by
      rw [List.map_append, List.map_cons, Variable.ofJson?_eq, same, ← Variable.ofJson?_eq,
        ← List.map_cons, ← List.map_append]
    exact congrArg Field.present items
  | @emptyGroup id groups v found misfit =>
    have empty : TargetGroup.ofJson v = TargetGroup.ofJson (.obj []) := by
      rw [TargetGroup.ofJson_eq, Slot.seen_of_misfit (.object .group) misfit]
      rfl
    exact congrArg some (Members.map_put TargetGroup.ofJson found empty).symm
  | @group id groups v w found _ same =>
    have group : TargetGroup.ofJson v = TargetGroup.ofJson w := by
      rw [TargetGroup.ofJson_eq, same, ← TargetGroup.ofJson_eq]
    exact congrArg some (Members.map_put TargetGroup.ofJson found group).symm

/-- Nor are any number of clean-ups. -/
theorem seen_eq_of_cleanups {slot : Slot} {v w : Json}
    (h : Relation.ReflTransGen (Cleanup slot) v w) : slot.seen (some v) = slot.seen (some w) := by
  induction h with
  | refl => rfl
  | tail _ step same => exact same.trans step.seen_eq

/-- A clean-up repeats no key. -/
theorem Cleanup.settled {slot : Slot} {v w : Json} (h : Cleanup slot v w) (settled : v.Settled) :
    w.Settled := by
  induction h with
  | dropMember key expected found misfit => exact settled.erase key
  | member key expected found _ ih => exact settled.put key (ih (settled.of_lookup found))
  | dropItem before behind misfit =>
    rw [Json.settled_arr_iff, List.forall_mem_append] at settled ⊢
    exact ⟨settled.1, (List.forall_mem_cons.1 settled.2).2⟩
  | item before behind _ ih =>
    rw [Json.settled_arr_iff, List.forall_mem_append, List.forall_mem_cons] at settled ⊢
    exact ⟨settled.1, ih settled.2.1, settled.2.2⟩
  | declaration before behind _ ih =>
    rw [Json.settled_arr_iff, List.forall_mem_append, List.forall_mem_cons] at settled ⊢
    exact ⟨settled.1, ih settled.2.1, settled.2.2⟩
  | emptyGroup id found misfit => exact settled.put id rfl
  | group id found _ ih => exact settled.put id (ih (settled.of_lookup found))

theorem settled_of_cleanups {slot : Slot} {v w : Json}
    (h : Relation.ReflTransGen (Cleanup slot) v w) (settled : v.Settled) : w.Settled := by
  induction h with
  | refl => exact settled
  | tail _ step ih => exact step.settled ih

/-- **Cleaning up changes nothing.** Texts get the same result, be it a report or a failure, if the
value of one comes from that of the other by clean-ups. -/
theorem analyze_eq_of_cleanups {text text' : String} {v w : Json}
    (before : Json.ofText text = .ok v) (after : Json.ofText text' = .ok w)
    (cleaned : Relation.ReflTransGen (Cleanup (.object .document)) v.settle w)
    (config : Config) : analyze text config = analyze text' config := by
  have settled : w.settle = w := settled_of_cleanups cleaned v.settled_settle
  rw [analyze_eq_seen before, analyze_eq_seen after, settled, seen_eq_of_cleanups cleaned]

/-- An atomic action with something under the key of its actions. -/
def workflowOf (actions : Json) : Json :=
  .obj [("workflow", .obj [
    ("properties", .obj [("atomic", .obj [("is_atomic", .bool true)])]), ("actions", actions)])]

theorem cleanup_workflowOf {v w : Json} (h : Cleanup (.objects .action) v w) :
    Cleanup (.object .document) (workflowOf v) (workflowOf w) :=
  .member "workflow" rfl rfl (.member "actions" rfl rfl h)

/-- Beside a `null` there is an action whose type is no text; beside a number, below it, there is one
whose properties are no object. -/
def untidyActions : Json :=
  .arr [.null, .obj [
    ("type", .bool false), ("blocks", .arr [.num (.int 7), .obj [("properties", .arr [])]])]]

def tidyActions : Json := .arr [.obj [("blocks", .arr [.obj []])]]

theorem cleanups_untidyActions :
    Relation.ReflTransGen (Cleanup (.objects .action)) untidyActions tidyActions := by
  have inBlocks {v w : Json} (h : Cleanup (.objects .action) v w) :
      Cleanup (.objects .action) (.arr [.obj [("blocks", v)]]) (.arr [.obj [("blocks", w)]]) :=
    .item [] [] (.member "blocks" rfl rfl h)
  refine .head (.dropItem [] _ rfl) ?_
  refine .head (.item [] [] (.dropMember "type" rfl rfl rfl)) ?_
  refine .head (inBlocks (.dropItem [] _ rfl)) ?_
  exact .single (inBlocks (.item [] [] (.dropMember "properties" rfl rfl rfl)))

theorem analyze_eq_of_cleanups_untidyActions :
    Relation.ReflTransGen (Cleanup (.object .document)) (workflowOf untidyActions).settle
        (workflowOf tidyActions) ∧
      analyze (workflowOf untidyActions).compact .builtIn =
        analyze (workflowOf tidyActions).compact .builtIn := by
  have before : Json.ofText (workflowOf untidyActions).compact = .ok (workflowOf untidyActions) := by
    apply Json.ofText_compact_of_exact
    simp [workflowOf, untidyActions, Json.nestingLimit]
  have after : Json.ofText (workflowOf tidyActions).compact = .ok (workflowOf tidyActions) := by
    apply Json.ofText_compact_of_exact
    simp [workflowOf, tidyActions, Json.nestingLimit]
  have cleaned : Relation.ReflTransGen (Cleanup (.object .document))
      (workflowOf untidyActions).settle (workflowOf tidyActions) :=
    cleanups_untidyActions.lift workflowOf fun _ _ => cleanup_workflowOf
  exact ⟨cleaned, analyze_eq_of_cleanups before after cleaned .builtIn⟩

end WorkflowLint
