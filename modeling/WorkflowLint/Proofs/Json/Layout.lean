import WorkflowLint.Json.Members
import WorkflowLint.Json.Writer

/-!
# Layouts

The two forms of a value differ in the blanks between their tokens only. A `Layout` says which blanks
stand there; `Layout.text` writes a value so, and both writers are instances of it
(`render_eq_text`, `renderPretty_eq_text`). What is said of every layout need not be said twice.
-/

set_option autoImplicit false

namespace WorkflowLint.Json

/-- The blanks between the tokens of a text. -/
structure Layout where
  /-- In front of an item inside so many brackets, and of the bracket that closes the next inner
  ones. -/
  line : Nat → List Char
  /-- Behind a colon. -/
  gap : List Char

/-- What stands between two brackets: parts with commas between them, `lead` in front of each and
`close` behind the last. -/
def between (lead close : List Char) : List (List Char) → List Char
  | [] => []
  | part :: rest => lead ++ (part ++ (rest.flatMap (fun part => ',' :: (lead ++ part)) ++ close))

namespace Layout

/-- No blanks at all. -/
def compact : Layout := ⟨fun _ => [], []⟩

/-- A line for each item. -/
def pretty : Layout := ⟨newline, [' ']⟩

mutual

/-- The text of a value that stands inside `depth` brackets. -/
def text (l : Layout) (depth : Nat) : Json → List Char
  | .null => ['n', 'u', 'l', 'l']
  | .bool true => ['t', 'r', 'u', 'e']
  | .bool false => ['f', 'a', 'l', 's', 'e']
  | .num n => n.render
  | .str s => renderString s
  | .arr items =>
    '[' :: between (l.line (depth + 1)) (l.line depth) (itemTexts l (depth + 1) items) ++ [']']
  | .obj members =>
    '\x7b' :: between (l.line (depth + 1)) (l.line depth) (memberTexts l (depth + 1) members) ++
      ['\x7d']

def itemTexts (l : Layout) (depth : Nat) : List Json → List (List Char)
  | [] => []
  | v :: rest => text l depth v :: itemTexts l depth rest

def memberTexts (l : Layout) (depth : Nat) : Members Json → List (List Char)
  | [] => []
  | (k, v) :: rest => (renderString k ++ ':' :: (l.gap ++ text l depth v)) :: memberTexts l depth rest

end

/-- The text of a member. -/
def memberText (l : Layout) (depth : Nat) (m : String × Json) : List Char :=
  renderString m.1 ++ ':' :: (l.gap ++ l.text depth m.2)

theorem text_arr (l : Layout) (depth : Nat) (items : List Json) :
    l.text depth (.arr items) =
      '[' :: between (l.line (depth + 1)) (l.line depth) (items.map (l.text (depth + 1))) ++
        [']'] := by
  have texts : l.itemTexts (depth + 1) items = items.map (l.text (depth + 1)) := by
    induction items with
    | nil => rfl
    | cons v rest ih => rw [itemTexts, ih, List.map_cons]
  rw [text, texts]

theorem text_obj (l : Layout) (depth : Nat) (members : Members Json) :
    l.text depth (.obj members) =
      '\x7b' :: between (l.line (depth + 1)) (l.line depth)
        (members.map (l.memberText (depth + 1))) ++ ['\x7d'] := by
  have texts : l.memberTexts (depth + 1) members = members.map (l.memberText (depth + 1)) := by
    induction members with
    | nil => rfl
    | cons m rest ih => rw [memberTexts, ih, List.map_cons, memberText]
  rw [text, texts]

end Layout

/-! ### The writers -/

mutual

theorem render_eq_text : ∀ (depth : Nat) (v : Json), v.render = Layout.compact.text depth v
  | _, .null => rfl
  | _, .bool true => rfl
  | _, .bool false => rfl
  | _, .num _ => rfl
  | _, .str _ => rfl
  | _, .arr [] => rfl
  | depth, .arr (v :: rest) => by
    rw [render, render_eq_text (depth + 1) v, renderItems_eq_flatMap (depth + 1) rest, Layout.text,
      Layout.itemTexts, between]
    simp [Layout.compact]
  | _, .obj [] => rfl
  | depth, .obj ((k, v) :: rest) => by
    rw [render, render_eq_text (depth + 1) v, renderMembers_eq_flatMap (depth + 1) rest, Layout.text,
      Layout.memberTexts, between]
    simp [Layout.compact]

theorem renderItems_eq_flatMap : ∀ (depth : Nat) (items : List Json),
    renderItems items = (Layout.compact.itemTexts depth items).flatMap fun part => ',' :: part
  | _, [] => rfl
  | depth, v :: rest => by
    rw [renderItems, render_eq_text depth v, renderItems_eq_flatMap depth rest, Layout.itemTexts,
      List.flatMap_cons]

theorem renderMembers_eq_flatMap : ∀ (depth : Nat) (members : Members Json),
    renderMembers members = (Layout.compact.memberTexts depth members).flatMap fun part => ',' :: part
  | _, [] => rfl
  | depth, (k, v) :: rest => by
    rw [renderMembers, render_eq_text depth v, renderMembers_eq_flatMap depth rest,
      Layout.memberTexts, List.flatMap_cons]
    simp [Layout.compact]

end

mutual

theorem renderPretty_eq_text : ∀ (depth : Nat) (v : Json),
    v.renderPretty depth = Layout.pretty.text depth v
  | _, .null => rfl
  | _, .bool true => rfl
  | _, .bool false => rfl
  | _, .num _ => rfl
  | _, .str _ => rfl
  | _, .arr [] => rfl
  | depth, .arr (v :: rest) => by
    rw [renderPretty, renderPretty_eq_text (depth + 1) v,
      renderPrettyItems_eq_flatMap (depth + 1) rest, Layout.text, Layout.itemTexts, between]
    simp [Layout.pretty]
  | _, .obj [] => rfl
  | depth, .obj ((k, v) :: rest) => by
    rw [renderPretty, renderPretty_eq_text (depth + 1) v,
      renderPrettyMembers_eq_flatMap (depth + 1) rest, Layout.text, Layout.memberTexts, between]
    simp [Layout.pretty]

theorem renderPrettyItems_eq_flatMap : ∀ (depth : Nat) (items : List Json),
    renderPrettyItems depth items =
      (Layout.pretty.itemTexts depth items).flatMap fun part => ',' :: (newline depth ++ part)
  | _, [] => rfl
  | depth, v :: rest => by
    rw [renderPrettyItems, renderPretty_eq_text depth v, renderPrettyItems_eq_flatMap depth rest,
      Layout.itemTexts, List.flatMap_cons, List.cons_append]

theorem renderPrettyMembers_eq_flatMap : ∀ (depth : Nat) (members : Members Json),
    renderPrettyMembers depth members =
      (Layout.pretty.memberTexts depth members).flatMap fun part => ',' :: (newline depth ++ part)
  | _, [] => rfl
  | depth, (k, v) :: rest => by
    rw [renderPrettyMembers, renderPretty_eq_text depth v, renderPrettyMembers_eq_flatMap depth rest,
      Layout.memberTexts, List.flatMap_cons]
    simp [Layout.pretty]

end

end WorkflowLint.Json
