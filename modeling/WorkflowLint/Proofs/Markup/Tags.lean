import WorkflowLint.Markup.Basic

/-!
# The tags of a markup

A reader of markup sees tags, each from a `<` to the next `>`, and characters outside the tags
(`pieces`). `outline` reads the tags with a stack of the open elements: it has a result only if
every element is closed in matching order, and then it says how deep each tag stands.
-/

set_option autoImplicit false

namespace WorkflowLint.Markup

/-- What a reader of markup sees. -/
inductive Piece where
  | tag (text : String)
  | char (c : Char)
  deriving DecidableEq

namespace Piece

def tag? : Piece → Option String
  | tag text => some text
  | char _ => none

def char? : Piece → Option Char
  | tag _ => none
  | char c => some c

end Piece

/-- The pieces of a text. Behind a `<` that waits for its `>`, the characters read since then are
held, the last in front; if the `>` never comes, they are no tag. -/
def piecesFrom : Option (List Char) → List Char → List Piece
  | none, [] => []
  | some held, [] => ('<' :: held.reverse).map .char
  | none, c :: rest =>
    if c = '<' then piecesFrom (some []) rest else .char c :: piecesFrom none rest
  | some held, c :: rest =>
    if c = '>' then .tag (String.ofList ('<' :: held.reverse ++ ['>'])) :: piecesFrom none rest
    else piecesFrom (some (c :: held)) rest

def pieces (markup : String) : List Piece := piecesFrom none markup.toList

/-- The tags, from first to last. -/
def tags (markup : String) : List String := (pieces markup).filterMap Piece.tag?

/-- The characters that belong to no tag. -/
def outside (markup : String) : List Char := (pieces markup).filterMap Piece.char?

/-! ### Nesting -/

/-- The elements of a report. -/
def elements : List String :=
  ["div", "table", "thead", "tbody", "tr", "td", "th", "h3", "span", "i", "small", "a"]

/-- The line break, a tag that neither opens nor closes an element. -/
def lineBreak : String := "<br />"

/-- What a tag does. -/
inductive Effect where
  | nothing
  | opens (name : String)
  | closes (name : String)

/-- The name in front of the attributes. -/
def nameOf (tag : List Char) : String :=
  String.ofList (tag.takeWhile fun c => c != ' ' && c != '>')

def effect (tag : String) : Effect :=
  if tag = lineBreak then .nothing
  else match tag.toList with
    | _ :: '/' :: rest => .closes (nameOf rest)
    | _ :: rest => .opens (nameOf rest)
    | [] => .nothing

/-- Each tag with the number of elements around its own. There is no outline if an element is not
known, if a closing tag is not the one of the innermost open element, or if an element stays open. -/
def outline : List String → List String → Option (List (Nat × String))
  | [], [] => some []
  | _ :: _, [] => none
  | opened, tag :: rest =>
    match effect tag with
    | .nothing => (outline opened rest).map fun o => (opened.length, tag) :: o
    | .opens name =>
      if name ∈ elements then
        (outline (name :: opened) rest).map fun o => (opened.length, tag) :: o
      else none
    | .closes name =>
      match opened with
      | [] => none
      | innermost :: outer =>
        if name = innermost then (outline outer rest).map fun o => (outer.length, tag) :: o
        else none

/-- An outline has every tag in its place. -/
theorem map_snd_outline {opened ts : List String} {o : List (Nat × String)}
    (h : outline opened ts = some o) : o.map Prod.snd = ts := by
  induction ts generalizing opened o with
  | nil =>
    cases opened with
    | nil =>
      cases h
      rfl
    | cons name outer => cases h
  | cons tag rest ih =>
    -- whatever the tag does, what is behind it has an outline of its own
    have more {opened' : List String} {depth : Nat}
        (h : (outline opened' rest).map (fun o => (depth, tag) :: o) = some o) :
        o.map Prod.snd = tag :: rest := by
      obtain ⟨o', ho', rfl⟩ := Option.map_eq_some_iff.1 h
      rw [List.map_cons, ih ho']
    rw [outline] at h
    split at h
    · exact more h
    · split at h
      · exact more h
      · cases h
    · split at h
      · cases h
      · split at h
        · exact more h
        · cases h

/-! ### Plain text -/

/-- Nothing in the text can begin or end a tag. -/
def Plain (cs : List Char) : Prop := ∀ c ∈ cs, c ≠ '<' ∧ c ≠ '>'

instance (cs : List Char) : Decidable (Plain cs) := List.decidableBAll _ cs

@[simp]
theorem plain_nil : Plain [] := by simp [Plain]

@[simp]
theorem plain_append {cs ds : List Char} : Plain (cs ++ ds) ↔ Plain cs ∧ Plain ds := by
  simp only [Plain, List.mem_append]
  constructor
  · intro h
    exact ⟨fun c hc => h c (.inl hc), fun c hc => h c (.inr hc)⟩
  · rintro ⟨hc, hd⟩ c (h | h)
    · exact hc c h
    · exact hd c h

theorem plain_replicate (n : Nat) {c : Char} (h : c ≠ '<' ∧ c ≠ '>') :
    Plain (List.replicate n c) := by
  intro d hd
  rw [(List.mem_replicate.1 hd).2]
  exact h

theorem plain_toString (n : Nat) : Plain (toString n).toList := by
  intro c hc
  rw [Nat.toString_eq_ofList_toDigits, String.toList_ofList] at hc
  have digit := Nat.isDigit_of_mem_toDigits (by decide) (by decide) hc
  constructor
  · rintro rfl
    exact absurd digit (by decide)
  · rintro rfl
    exact absurd digit (by decide)

/-! ### Reading a tag -/

theorem piecesFrom_char {c : Char} (h : c ≠ '<') (rest : List Char) :
    piecesFrom none (c :: rest) = .char c :: piecesFrom none rest := by
  rw [piecesFrom, if_neg h]

/-- A tag is read to its end. -/
theorem piecesFrom_held {body : List Char} (h : Plain body) (held rest : List Char) :
    piecesFrom (some held) (body ++ '>' :: rest) =
      .tag (String.ofList ('<' :: (held.reverse ++ body) ++ ['>'])) :: piecesFrom none rest := by
  induction body generalizing held with
  | nil => simp [piecesFrom]
  | cons c body ih =>
    have inner : c ≠ '>' := (h c List.mem_cons_self).2
    have plain : Plain body := fun d hd => h d (List.mem_cons_of_mem _ hd)
    rw [List.cons_append, piecesFrom, if_neg inner, ih plain]
    simp

theorem piecesFrom_tag {tag : String} {body : List Char} (h : Plain body)
    (ht : tag.toList = '<' :: body ++ ['>']) (rest : List Char) :
    piecesFrom none (tag.toList ++ rest) = .tag tag :: piecesFrom none rest := by
  have split : tag.toList ++ rest = '<' :: (body ++ '>' :: rest) := by simp [ht]
  rw [split, piecesFrom, if_pos rfl, piecesFrom_held h]
  congr 2
  rw [← String.toList_inj, String.toList_ofList, ht]
  simp

theorem toList_openingTag (name attributes : String) :
    ∃ tail, (openingTag name attributes).toList = '<' :: (name.toList ++ tail) ++ ['>'] ∧
      (tail = [] ∨ tail = ' ' :: attributes.toList) := by
  unfold openingTag
  split
  · exact ⟨[], by simp, .inl rfl⟩
  · exact ⟨' ' :: attributes.toList, by simp, .inr rfl⟩

theorem toList_closingTag (name : String) :
    (closingTag name).toList = '<' :: ('/' :: name.toList) ++ ['>'] := by
  simp [closingTag]

/-- The name of an element is neither empty nor mistaken for anything else in a tag. -/
theorem wordlike_of_mem_elements {name : String} (h : name ∈ elements) :
    name ≠ "br" ∧ name.toList ≠ [] ∧
      ∀ c ∈ name.toList, c ≠ ' ' ∧ c ≠ '/' ∧ c ≠ '<' ∧ c ≠ '>' := by
  have checked : (elements.all fun name => name != "br" && name.toList != [] &&
      name.toList.all fun c => c != ' ' && c != '/' && c != '<' && c != '>') = true := by decide
  have name := List.all_eq_true.1 checked name h
  simp only [Bool.and_eq_true, bne_iff_ne, List.all_eq_true, and_assoc] at name
  exact name

theorem plain_of_mem_elements {name : String} (h : name ∈ elements) : Plain name.toList :=
  fun c hc => ((wordlike_of_mem_elements h).2.2 c hc).2.2

theorem nameOf_append {name : String} (h : name ∈ elements) {tail : List Char}
    (ht : ∃ c ∈ tail.head?, c = ' ' ∨ c = '>') : nameOf (name.toList ++ tail) = name := by
  have letters : ∀ c ∈ name.toList, (c != ' ' && c != '>') = true := by
    intro c hc
    have := (wordlike_of_mem_elements h).2.2 c hc
    simp [this.1, this.2.2.2]
  unfold nameOf
  rw [List.takeWhile_append_of_pos letters]
  obtain ⟨c, hc, hend⟩ := ht
  cases tail with
  | nil => cases hc
  | cons d tail =>
    cases hc
    rcases hend with rfl | rfl <;> simp

theorem effect_lineBreak : effect lineBreak = .nothing := by rw [effect, if_pos rfl]

theorem effect_closingTag {name : String} (h : name ∈ elements) :
    effect (closingTag name) = .closes name := by
  have chars := toList_closingTag name
  have other : closingTag name ≠ lineBreak := by
    intro e
    rw [e] at chars
    simp [lineBreak] at chars
  rw [effect, if_neg other, chars]
  show Effect.closes (nameOf (name.toList ++ ['>'])) = _
  rw [nameOf_append h ⟨'>', rfl, .inr rfl⟩]

theorem effect_openingTag {name : String} (h : name ∈ elements) (attributes : String) :
    effect (openingTag name attributes) = .opens name := by
  obtain ⟨tail, chars, ht⟩ := toList_openingTag name attributes
  have named : nameOf (name.toList ++ (tail ++ ['>'])) = name := by
    apply nameOf_append h
    rcases ht with rfl | rfl
    · exact ⟨'>', rfl, .inr rfl⟩
    · exact ⟨' ', rfl, .inl rfl⟩
  obtain ⟨notBr, nonempty, letters⟩ := wordlike_of_mem_elements h
  have other : openingTag name attributes ≠ lineBreak := by
    intro e
    apply notBr
    have br : '<' :: (name.toList ++ (tail ++ ['>'])) = '<' :: "br />".toList := by
      rw [← List.append_assoc, ← List.cons_append, ← chars, e]
      rfl
    rw [← named, List.cons_inj_right _ |>.1 br]
    decide
  rw [effect, if_neg other, chars]
  cases hn : name.toList with
  | nil => exact absurd hn nonempty
  | cons c cs =>
    have noSlash : c ≠ '/' := (letters c (by simp [hn])).2.1
    rw [hn] at named
    simp only [List.cons_append, List.append_assoc]
    split
    · next heq =>
      simp only [List.cons.injEq] at heq
      exact absurd heq.2.1 noSlash
    · next heq =>
      simp only [List.cons.injEq] at heq
      rw [← heq.2, ← named]
      rfl
    · next heq => cases heq

/-! ### One tag of an outline -/

section

variable {opened : List String} {ts : List String} {name : String}

theorem isSome_outline_lineBreak (h : (outline opened ts).isSome) :
    (outline opened (lineBreak :: ts)).isSome := by
  rw [outline, effect_lineBreak, Option.isSome_map]
  exact h

theorem isSome_outline_openingTag (known : name ∈ elements) (attributes : String)
    (h : (outline (name :: opened) ts).isSome) :
    (outline opened (openingTag name attributes :: ts)).isSome := by
  rw [outline, effect_openingTag known]
  simp only [if_pos known, Option.isSome_map]
  exact h

theorem isSome_outline_closingTag (known : name ∈ elements) (h : (outline opened ts).isSome) :
    (outline (name :: opened) (closingTag name :: ts)).isSome := by
  rw [outline, effect_closingTag known]
  simp only [if_true, Option.isSome_map]
  exact h

end

end WorkflowLint.Markup
