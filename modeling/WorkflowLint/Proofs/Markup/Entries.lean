import Mathlib.Data.List.Basic
import Mathlib.Data.List.Induction
import WorkflowLint.Markup.Basic

/-!
# The entries of a markup

What steps write, told one entry a step: `Step.entry?` needs to know which elements are open in front
of the step, and these are the ones that the steps before it have opened and not closed (`openAfter`).
The end adds the closing entries that are missing. `layout_append` says that what is written so far
never changes, and `Leaves`, which every step keeps (`Leaves.step`), that all entries together are
balanced, each indented by as many elements as it stands in.
-/

set_option autoImplicit false

namespace WorkflowLint.Markup

/-- What is written as one: a text, or a tag that opens or closes an element, inside `depth`
elements. -/
inductive Entry where
  | text (depth : Nat) (content : String)
  | opening (depth : Nat) (tag attributes : String)
  | closing (depth : Nat) (tag : String)
  deriving DecidableEq

namespace Entry

/-- Two blanks for each element around. -/
def margin (depth : Nat) : String := String.ofList (List.replicate (2 * depth) ' ')

/-- The tag in front of what an element holds. -/
def front (tag attributes : String) : String :=
  if attributes = "" then "<" ++ tag ++ ">" else "<" ++ tag ++ " " ++ attributes ++ ">"

/-- What is written, without the end of its line. -/
def line : Entry → String
  | .text depth content => margin depth ++ content
  | .opening depth tag attributes => margin depth ++ front tag attributes
  | .closing depth tag => margin depth ++ ("</" ++ tag ++ ">")

/-- What the entries are as a text: every one ends its line. -/
def written (es : List Entry) : String := String.join (es.map fun e => e.line ++ "\n")

theorem front_eq_openingTag (tag attributes : String) :
    front tag attributes = openingTag tag attributes := by
  simp only [front, openingTag, String.isEmpty_iff]

theorem written_eq_ofLines (es : List Entry) : written es = ofLines (es.map line) := by
  rw [written, ofLines, List.map_map]
  rfl

end Entry

namespace Step

/-- The elements that are open behind the step if these are in front of it, the innermost first. -/
def after (opened : List String) : Step → List String
  | .line _ => opened
  | .opening tag _ => tag :: opened
  | .closing => opened.tail
  | .element _ _ _ => opened

/-- What the step writes where these elements are open; nothing if it should close one of none. -/
def entry? (opened : List String) : Step → Option Entry
  | .line text => some (.text opened.length text)
  | .opening tag attributes => some (.opening opened.length tag attributes)
  | .closing =>
    match opened with
    | [] => none
    | tag :: outer => some (.closing outer.length tag)
  | .element tag attributes text =>
    some (.text opened.length (Entry.front tag attributes ++ text ++ ("</" ++ tag ++ ">")))

end Step

/-- The elements that are open after the steps, the innermost first. -/
def openAfter (steps : List Step) : List String := steps.foldl Step.after []

/-- What the steps write, each where the steps before it have led. -/
def entries (steps : List Step) : List Entry :=
  steps.zipIdx.filterMap fun (step, i) => step.entry? (openAfter (steps.take i))

/-- What closes these elements, the innermost first. -/
def closings : List String → List Entry
  | [] => []
  | tag :: outer => .closing outer.length tag :: closings outer

theorem openAfter_snoc (steps : List Step) (step : Step) :
    openAfter (steps ++ [step]) = step.after (openAfter steps) := by
  simp [openAfter, List.foldl_append]

theorem entries_snoc (steps : List Step) (step : Step) :
    entries (steps ++ [step]) = entries steps ++ (step.entry? (openAfter steps)).toList := by
  have before : (steps.zipIdx.filterMap fun (s, i) => s.entry? (openAfter ((steps ++ [step]).take i))) =
      entries steps := by
    -- an earlier step does not see the one behind it
    refine List.filterMap_congr fun (s, i) mem => ?_
    have inside : i < steps.length := by simpa using (List.mem_zipIdx mem).2.1
    dsimp only
    rw [List.take_append_of_le_length (Nat.le_of_lt inside)]
  rw [entries, List.zipIdx_append, List.filterMap_append, before]
  cases h : step.entry? (openAfter steps) <;> simp [h]

/-! ### The output -/

theorem layout_cons (opened : List String) (step : Step) (rest : List Step) :
    layout opened (step :: rest) =
      (step.entry? opened).toList.map Entry.line ++ layout (step.after opened) rest := by
  cases step with
  | line text => rfl
  | opening tag attributes =>
    rw [layout, ← Entry.front_eq_openingTag]
    rfl
  | closing => cases opened <;> rfl
  | element tag attributes text =>
    rw [layout, ← Entry.front_eq_openingTag]
    rfl

/-- What the first steps write stays as it is, whatever steps come behind them. -/
theorem layout_append (steps rest : List Step) :
    layout [] (steps ++ rest) = (entries steps).map Entry.line ++ layout (openAfter steps) rest := by
  induction steps using List.reverseRecOn generalizing rest with
  | nil => rfl
  | append_singleton steps step ih =>
    rw [List.append_assoc, List.singleton_append, ih, layout_cons, entries_snoc, openAfter_snoc,
      List.map_append, List.append_assoc]

theorem closeAll_eq_map (opened : List String) :
    closeAll opened = (closings opened).map Entry.line := by
  induction opened with
  | nil => rfl
  | cons tag outer ih =>
    rw [closeAll, ih, closings, List.map_cons]
    rfl

theorem layout_eq_map (steps : List Step) :
    layout [] steps = (entries steps ++ closings (openAfter steps)).map Entry.line := by
  have whole := layout_append steps []
  rw [List.append_nil] at whole
  rw [whole, List.map_append, ← closeAll_eq_map, layout]

theorem ofLines_append (lines lines' : List String) :
    ofLines (lines ++ lines') = ofLines lines ++ ofLines lines' := by
  simp [ofLines, String.join_append]

/-! ### Balance -/

/-- Entries inside `depth` elements that close what they open and nothing else, each closing tag as
far indented as its opening tag. -/
inductive Balanced : Nat → List Entry → Prop
  | nil {depth : Nat} : Balanced depth []
  | text {depth : Nat} (content : String) {rest : List Entry} (behind : Balanced depth rest) :
    Balanced depth (.text depth content :: rest)
  | block {depth : Nat} (tag attributes : String) {inner rest : List Entry}
      (inside : Balanced (depth + 1) inner) (behind : Balanced depth rest) :
    Balanced depth (.opening depth tag attributes :: (inner ++ .closing depth tag :: rest))

theorem Balanced.append {depth : Nat} {es es' : List Entry} (h : Balanced depth es)
    (h' : Balanced depth es') : Balanced depth (es ++ es') := by
  induction h with
  | nil => exact h'
  | text t _ ih => exact .text t (ih h')
  | block tag attributes inside _ _ ih =>
    have whole := Balanced.block tag attributes inside (ih h')
    simpa using whole

/-- The entries are balanced but for these elements, which they leave open. -/
inductive Leaves : List String → List Entry → Prop
  | none {es : List Entry} (balanced : Balanced 0 es) : Leaves [] es
  | inside {opened : List String} {es inner : List Entry} (tag attributes : String)
      (before : Leaves opened es) (balanced : Balanced (opened.length + 1) inner) :
    Leaves (tag :: opened) (es ++ .opening opened.length tag attributes :: inner)

namespace Leaves

variable {opened : List String} {es : List Entry}

/-- Balanced entries inside the innermost element leave everything open that was open. -/
theorem append (h : Leaves opened es) {es' : List Entry} (balanced : Balanced opened.length es') :
    Leaves opened (es ++ es') := by
  cases h with
  | none before => exact .none (before.append balanced)
  | inside tag attributes before inner =>
    have whole := Leaves.inside tag attributes before (inner.append balanced)
    simpa using whole

theorem close {tag : String} (h : Leaves (tag :: opened) es) :
    Leaves opened (es ++ [.closing opened.length tag]) := by
  cases h with
  | inside _ attributes before inner =>
    have whole := before.append (.block tag attributes inner .nil)
    simpa using whole

/-- What one step keeps. -/
theorem step (h : Leaves opened es) (s : Step) :
    Leaves (s.after opened) (es ++ (s.entry? opened).toList) := by
  cases s with
  | line text => exact h.append (.text text .nil)
  | opening tag attributes => exact .inside tag attributes h .nil
  | closing =>
    cases opened with
    | nil =>
      rw [Step.entry?, Option.toList_none, List.append_nil]
      exact h
    | cons tag outer => exact h.close
  | element tag attributes text => exact h.append (.text _ .nil)

/-- Closing what is left open makes the entries balanced. -/
theorem finish (h : Leaves opened es) : Balanced 0 (es ++ closings opened) := by
  induction opened generalizing es with
  | nil =>
    cases h with
    | none balanced => rwa [closings, List.append_nil]
  | cons tag outer ih =>
    have whole := ih h.close
    rwa [List.append_assoc, List.singleton_append] at whole

end Leaves

/-- What the run of all steps keeps. -/
theorem leaves_entries (steps : List Step) : Leaves (openAfter steps) (entries steps) := by
  induction steps using List.reverseRecOn with
  | nil => exact .none .nil
  | append_singleton steps step ih =>
    rw [openAfter_snoc, entries_snoc]
    exact ih.step step

/-! ### Missing and idle closing steps -/

theorem layout_replicate_closing (opened : List String) :
    layout opened (List.replicate opened.length .closing) = closeAll opened := by
  induction opened with
  | nil => rfl
  | cons tag outer ih =>
    rw [List.length_cons, List.replicate_succ, layout_cons, closeAll]
    exact congrArg (List.cons _) ih

/-- The second steps are the first, which start where these elements are open, without some of those
that close and find nothing open. -/
inductive Trims : List String → List Step → List Step → Prop
  | nil {opened : List String} : Trims opened [] []
  | keep {opened : List String} (step : Step) {steps steps' : List Step}
      (behind : Trims (step.after opened) steps steps') :
    Trims opened (step :: steps) (step :: steps')
  | drop {steps steps' : List Step} (behind : Trims [] steps steps') :
    Trims [] (.closing :: steps) steps'

theorem Trims.layout_eq {opened : List String} {steps steps' : List Step}
    (h : Trims opened steps steps') : layout opened steps = layout opened steps' := by
  induction h with
  | nil => rfl
  | keep step _ ih => rw [layout_cons, ih, ← layout_cons]
  | drop _ ih => exact ih

/-- **What steps write.** An entry for each step that does not close in vain, on lines of their own
and indented by the elements open there, and then what closes the elements that are still open; all
of it is balanced. Closing steps that do this in advance change nothing, nor do closing steps that find
nothing open, and what is written in front of the end is there however the steps go on. -/
theorem render_entries (steps : List Step) :
    render steps = Entry.written (entries steps ++ closings (openAfter steps)) ∧
    Balanced 0 (entries steps ++ closings (openAfter steps)) ∧
    render (steps ++ List.replicate (openAfter steps).length .closing) = render steps ∧
    (∀ steps', Trims [] steps steps' → render steps' = render steps) ∧
    ∀ more, ∃ behind, render (steps ++ more) = Entry.written (entries steps) ++ behind := by
  refine ⟨?_, (leaves_entries steps).finish, ?_, fun steps' trims => ?_, fun more => ?_⟩
  · rw [render, layout_eq_map, Entry.written_eq_ofLines]
  · rw [render, layout_append, layout_replicate_closing, closeAll_eq_map, ← List.map_append,
      ← layout_eq_map, render]
  · rw [render, ← trims.layout_eq, render]
  · refine ⟨ofLines (layout (openAfter steps) more), ?_⟩
    rw [render, layout_append, ofLines_append, Entry.written_eq_ofLines]

example : Trims [] [.closing, .opening "p" "", .line "x"] [.opening "p" "", .line "x"] :=
  .drop (.keep _ (.keep _ .nil))

example : render [.closing, .opening "p" "", .line "x"] = "<p>\n  x\n</p>\n" := by decide

end WorkflowLint.Markup
