import WorkflowLint.Markup.Escape
import WorkflowLint.Proofs.Markup.Tags

/-!
# Fragments of a markup

`Finishes` says of the rest of a markup, inside open elements, which tags it has, that it closes
what is open, and that nothing else in it looks like a tag. It is proved from the end of the markup
to its front, a piece at a time. A `Fragment` may stand in front of any rest: plain text, a text as
markup shows it (`fragment_escape`), and an element around a fragment.
-/

set_option autoImplicit false

namespace WorkflowLint.Markup

/-! ### The rest of a markup -/

/-- Inside the open elements, the text has these tags, closes the elements, and looks like a tag
nowhere else. -/
structure Finishes (opened : List String) (text : List Char) (ts : List String) : Prop where
  tags : (piecesFrom none text).filterMap Piece.tag? = ts
  outside : Plain ((piecesFrom none text).filterMap Piece.char?)
  outline : (outline opened ts).isSome

namespace Finishes

variable {opened : List String} {text : List Char} {ts : List String} {name : String}

theorem nil : Finishes [] [] [] := ⟨rfl, plain_nil, rfl⟩

theorem char {c : Char} (h : c ≠ '<' ∧ c ≠ '>') (rest : Finishes opened text ts) :
    Finishes opened (c :: text) ts where
  tags := by
    rw [piecesFrom_char h.1]
    exact rest.tags
  outside := by
    rw [piecesFrom_char h.1]
    exact List.forall_mem_cons.2 ⟨h, rest.outside⟩
  outline := rest.outline

theorem plain {cs : List Char} (h : Plain cs) (rest : Finishes opened text ts) :
    Finishes opened (cs ++ text) ts := by
  induction cs with
  | nil => exact rest
  | cons c cs ih =>
    obtain ⟨hc, hcs⟩ := List.forall_mem_cons.1 h
    exact char hc (ih hcs)

/-- A tag stands in front of the rest if its effect leaves open what the rest closes. -/
theorem tag {tag : String} {body : List Char} {opened' : List String} (plain : Plain body)
    (chars : tag.toList = '<' :: body ++ ['>']) (rest : Finishes opened text ts)
    (reads : (Markup.outline opened ts).isSome → (Markup.outline opened' (tag :: ts)).isSome) :
    Finishes opened' (tag.toList ++ text) (tag :: ts) where
  tags := by
    rw [piecesFrom_tag plain chars]
    exact congrArg (tag :: ·) rest.tags
  outside := by
    rw [piecesFrom_tag plain chars]
    exact rest.outside
  outline := reads rest.outline

theorem lineBreak (rest : Finishes opened text ts) :
    Finishes opened (Markup.lineBreak.toList ++ text) (Markup.lineBreak :: ts) := by
  have plain : Plain "br /".toList := by decide
  exact tag plain (by decide) rest isSome_outline_lineBreak

theorem opening (known : name ∈ elements) {attributes : String} (plain : Plain attributes.toList)
    (rest : Finishes (name :: opened) text ts) :
    Finishes opened ((openingTag name attributes).toList ++ text)
      (openingTag name attributes :: ts) := by
  obtain ⟨tail, chars, ht⟩ := toList_openingTag name attributes
  have body : Plain (name.toList ++ tail) := by
    refine plain_append.2 ⟨plain_of_mem_elements known, ?_⟩
    rcases ht with rfl | rfl
    · exact plain_nil
    · exact List.forall_mem_cons.2 ⟨by decide, plain⟩
  exact tag body chars rest (isSome_outline_openingTag known attributes)

theorem closing (known : name ∈ elements) (rest : Finishes opened text ts) :
    Finishes (name :: opened) ((closingTag name).toList ++ text) (closingTag name :: ts) := by
  have body : Plain ('/' :: name.toList) :=
    List.forall_mem_cons.2 ⟨by decide, plain_of_mem_elements known⟩
  exact tag body (toList_closingTag name) rest (isSome_outline_closingTag known)

end Finishes

/-! ### Fragments -/

/-- The tags of an element around the given tags. -/
def enclosed (name attributes : String) (inner : List String) : List String :=
  openingTag name attributes :: inner ++ [closingTag name]

/-- The text has these tags and leaves open what was open, whatever comes behind it. -/
def Fragment (text : List Char) (ts : List String) : Prop :=
  ∀ opened rest more, Finishes opened rest more → Finishes opened (text ++ rest) (ts ++ more)

namespace Fragment

theorem plain {cs : List Char} (h : Plain cs) : Fragment cs [] :=
  fun _ _ _ rest => Finishes.plain h rest

theorem append {a b : List Char} {as bs : List String} (ha : Fragment a as) (hb : Fragment b bs) :
    Fragment (a ++ b) (as ++ bs) := by
  intro opened rest more h
  rw [List.append_assoc, List.append_assoc]
  exact ha opened _ _ (hb opened rest more h)

theorem lineBreak : Fragment Markup.lineBreak.toList [Markup.lineBreak] :=
  fun _ _ _ rest => Finishes.lineBreak rest

/-- An element around a fragment. -/
theorem element {name attributes : String} (known : name ∈ elements)
    (plain : Plain attributes.toList) {inner : List Char} {ts : List String}
    (h : Fragment inner ts) :
    Fragment ((openingTag name attributes).toList ++ inner ++ (closingTag name).toList)
      (enclosed name attributes ts) := by
  intro opened rest more finishes
  have closed := Finishes.closing known finishes
  have opening := Finishes.opening known plain (h _ _ _ closed)
  simpa only [enclosed, List.append_assoc, List.cons_append, List.nil_append] using opening

end Fragment

/-- How many line feeds a text has. -/
def newlines (text : String) : Nat := text.toList.count '\n'

theorem plain_encodeChar (c : Char) : Plain (encodeChar c) := by
  unfold encodeChar
  split
  · decide
  · split
    · decide
    · next lt =>
      split
      · decide
      · next gt => exact List.forall_mem_cons.2 ⟨⟨lt, gt⟩, plain_nil⟩

theorem escapeChar_newline : escapeChar '\n' = lineBreak.toList := by decide

theorem escapeChar_of_ne {c : Char} (h : c ≠ '\n') : escapeChar c = encodeChar c := by
  -- an entity has no line feed in it, so the breaks leave it whole
  unfold escapeChar encodeChar
  split
  · rfl
  · split
    · rfl
    · split
      · rfl
      · simp [breakChar, h]

/-- The tags of a text with so many line feeds. -/
def breaks (count : Nat) : List String := List.replicate count lineBreak

/-- A text becomes line breaks and nothing else that is a tag. -/
theorem fragment_escape (text : String) :
    Fragment (escape text).toList (breaks (newlines text)) := by
  rw [toList_escape, newlines]
  induction text.toList with
  | nil => exact Fragment.plain plain_nil
  | cons c cs ih =>
    rw [List.flatMap_cons]
    by_cases h : c = '\n'
    · subst h
      rw [escapeChar_newline, List.count_cons_self, breaks, List.replicate_succ]
      exact Fragment.lineBreak.append ih
    · rw [escapeChar_of_ne h, List.count_cons_of_ne h]
      exact (Fragment.plain (plain_encodeChar c)).append ih

end WorkflowLint.Markup
