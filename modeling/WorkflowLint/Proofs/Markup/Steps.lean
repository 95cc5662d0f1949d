import WorkflowLint.Proofs.Markup.Fragment

/-!
# The tags that steps write

`Nested` steps close what they open, whatever elements are open around them and whatever steps come
behind them. Nested steps are put together like fragments, and what they write is well nested
(`Nested.finishes`).
-/

set_option autoImplicit false

namespace WorkflowLint.Markup

theorem toList_ofLines_cons (line : String) (lines : List String) :
    (ofLines (line :: lines)).toList = line.toList ++ '\n' :: (ofLines lines).toList := by
  simp [ofLines, String.toList_join]

theorem toList_ofLines_indent (depth : Nat) (text : String) (lines : List String) :
    (ofLines (indent depth text :: lines)).toList =
      List.replicate (2 * depth) ' ' ++ (text.toList ++ '\n' :: (ofLines lines).toList) := by
  simp [toList_ofLines_cons, indent]

namespace Finishes

variable {opened : List String} {lines : List String} {ts more : List String} {name : String}

/-- The blanks in front of a line are no part of a tag. -/
theorem indented (depth : Nat) {text : String}
    (h : Finishes opened (text.toList ++ '\n' :: (ofLines lines).toList) ts) :
    Finishes opened (ofLines (indent depth text :: lines)).toList ts := by
  rw [toList_ofLines_indent]
  exact plain (plain_replicate _ (by decide)) h

theorem fragmentLine (depth : Nat) {text : String} (h : Fragment text.toList ts)
    (rest : Finishes opened (ofLines lines).toList more) :
    Finishes opened (ofLines (indent depth text :: lines)).toList (ts ++ more) :=
  indented depth (h opened _ _ (char (by decide) rest))

theorem openingLine (depth : Nat) (known : name ∈ elements) {attributes : String}
    (plain : Plain attributes.toList) (rest : Finishes (name :: opened) (ofLines lines).toList ts) :
    Finishes opened (ofLines (indent depth (openingTag name attributes) :: lines)).toList
      (openingTag name attributes :: ts) :=
  indented depth (opening known plain (char (by decide) rest))

theorem closingLine (depth : Nat) (known : name ∈ elements)
    (rest : Finishes opened (ofLines lines).toList ts) :
    Finishes (name :: opened) (ofLines (indent depth (closingTag name) :: lines)).toList
      (closingTag name :: ts) :=
  indented depth (closing known (char (by decide) rest))

/-- At the end, what is still open is closed. -/
theorem closeAll (known : ∀ name ∈ opened, name ∈ elements) :
    Finishes opened (ofLines (closeAll opened)).toList (opened.map closingTag) := by
  induction opened with
  | nil => exact nil
  | cons name outer ih =>
    obtain ⟨here, others⟩ := List.forall_mem_cons.1 known
    exact closingLine outer.length here (ih others)

end Finishes

/-- The steps write these tags and leave open what was open, whatever steps come behind them. -/
def Nested (steps : List Step) (ts : List String) : Prop :=
  ∀ opened rest more, Finishes opened (ofLines (layout opened rest)).toList more →
    Finishes opened (ofLines (layout opened (steps ++ rest))).toList (ts ++ more)

namespace Nested

variable {steps steps' : List Step} {ts ts' : List String} {name attributes : String}

theorem nil : Nested [] [] := fun _ _ _ rest => rest

theorem append (h : Nested steps ts) (h' : Nested steps' ts') :
    Nested (steps ++ steps') (ts ++ ts') := by
  intro opened rest more finishes
  rw [List.append_assoc, List.append_assoc]
  exact h opened _ _ (h' opened rest more finishes)

theorem cons {step : Step} (h : Nested [step] ts) (h' : Nested steps ts') :
    Nested (step :: steps) (ts ++ ts') := by
  rw [← List.singleton_append]
  exact append h h'

theorem line {text : String} (h : Fragment text.toList ts) : Nested [.line text] ts :=
  fun opened _ _ rest => Finishes.fragmentLine opened.length h rest

theorem element (known : name ∈ elements) (plain : Plain attributes.toList) {text : String}
    (h : Fragment text.toList ts) :
    Nested [.element name attributes text] (enclosed name attributes ts) := by
  have whole : Fragment (openingTag name attributes ++ text ++ closingTag name).toList
      (enclosed name attributes ts) := by
    rw [String.toList_append, String.toList_append]
    exact Fragment.element known plain h
  exact fun opened _ _ rest => Finishes.fragmentLine opened.length whole rest

/-- An element around nested steps. -/
theorem block (known : name ∈ elements) (plain : Plain attributes.toList) (h : Nested steps ts) :
    Nested (.opening name attributes :: steps ++ [.closing]) (enclosed name attributes ts) := by
  intro opened rest more finishes
  have closed := Finishes.closingLine opened.length known finishes
  have inner := h (name :: opened) (.closing :: rest) _ closed
  have whole := Finishes.openingLine opened.length known plain inner
  simpa only [layout, enclosed, List.append_assoc, List.cons_append, List.nil_append] using whole

theorem map {α : Type} {step : α → Step} {tagsOf : α → List String} {list : List α}
    (h : ∀ a ∈ list, Nested [step a] (tagsOf a)) :
    Nested (list.map step) (list.flatMap tagsOf) := by
  induction list with
  | nil => exact nil
  | cons a rest ih =>
    obtain ⟨first, others⟩ := List.forall_mem_cons.1 h
    exact cons first (ih others)

/-- What nested steps write is well nested. -/
theorem finishes (h : Nested steps ts) : Finishes [] (render steps).toList ts := by
  have whole := h [] [] [] Finishes.nil
  simpa only [render, List.append_nil] using whole

/-- What is written inside an element that no step closes is well nested all the same. -/
theorem finishes_opening (known : name ∈ elements) (plain : Plain attributes.toList)
    (h : Nested steps ts) :
    Finishes [] (render (.opening name attributes :: steps)).toList
      (enclosed name attributes ts) := by
  have closed : Finishes [name] (ofLines (layout [name] [])).toList [closingTag name] :=
    Finishes.closeAll (List.forall_mem_singleton.2 known)
  have inner := h [name] [] _ closed
  rw [List.append_nil] at inner
  exact Finishes.openingLine 0 known plain inner

end Nested

end WorkflowLint.Markup
