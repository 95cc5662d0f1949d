import WorkflowLint.Markup.Escape
import WorkflowLint.Proofs.Markup.Steps

/-!
# The lines of a markup

Steps whose texts have no line feed write one line each, so the lines can be told apart again
(`layout_eq_of_render_eq`), and a line that begins with a tag tells how deep it stands (`indent_inj`). An
escaped text has no line feed, and no two texts look alike when escaped (`escape_injective`).
-/

set_option autoImplicit false

namespace WorkflowLint.Markup

/-- The text has no line feed. -/
def OneLine (text : String) : Prop := '\n' ∉ text.toList

instance (text : String) : Decidable (OneLine text) := inferInstanceAs (Decidable (_ ∉ _))

theorem oneLine_append {s t : String} : OneLine (s ++ t) ↔ OneLine s ∧ OneLine t := by
  rw [OneLine, String.toList_append, List.mem_append, not_or]
  rfl

/-- For a text that is written out, where its characters are at hand. -/
theorem oneLine_ofList {cs : List Char} (h : '\n' ∉ cs) : OneLine (String.ofList cs) := by
  rwa [OneLine, String.toList_ofList]

/-- The step's texts have no line feed. -/
def Step.OneLine : Step → Prop
  | .line text => Markup.OneLine text
  | .opening tag attributes => Markup.OneLine tag ∧ Markup.OneLine attributes
  | .closing => True
  | .element tag attributes text =>
    (Markup.OneLine tag ∧ Markup.OneLine attributes) ∧ Markup.OneLine text

/-! ### From a text to its lines -/

theorem append_newline_inj {a b : List Char} (ha : '\n' ∉ a) (hb : '\n' ∉ b) {s t : List Char}
    (h : a ++ '\n' :: s = b ++ '\n' :: t) : a = b ∧ s = t := by
  induction a generalizing b with
  | nil =>
    cases b with
    | nil => exact ⟨rfl, (List.cons.inj h).2⟩
    | cons c b => exact absurd (List.mem_cons.2 (.inl (List.cons.inj h).1)) hb
  | cons c a ih =>
    cases b with
    | nil => exact absurd (List.mem_cons.2 (.inl (List.cons.inj h).1.symm)) ha
    | cons d b =>
      obtain ⟨rfl, more⟩ := List.cons.inj h
      obtain ⟨rfl, rfl⟩ := ih (fun m => ha (List.mem_cons_of_mem _ m))
        (fun m => hb (List.mem_cons_of_mem _ m)) more
      exact ⟨rfl, rfl⟩

/-- Lines can be told apart in their text. -/
theorem ofLines_injective {a b : List String} (ha : ∀ line ∈ a, OneLine line)
    (hb : ∀ line ∈ b, OneLine line) (h : ofLines a = ofLines b) : a = b := by
  have chars : (ofLines a).toList = (ofLines b).toList := congrArg String.toList h
  clear h
  have empty : (ofLines []).toList = [] := rfl
  induction a generalizing b with
  | nil =>
    cases b with
    | nil => rfl
    | cons line b =>
      rw [empty, toList_ofLines_cons] at chars
      simp at chars
  | cons line a ih =>
    cases b with
    | nil =>
      rw [empty, toList_ofLines_cons] at chars
      simp at chars
    | cons line' b =>
      obtain ⟨here, others⟩ := List.forall_mem_cons.1 ha
      obtain ⟨here', others'⟩ := List.forall_mem_cons.1 hb
      rw [toList_ofLines_cons, toList_ofLines_cons] at chars
      obtain ⟨same, rest⟩ := append_newline_inj here here' chars
      rw [String.toList_inj.1 same, ih others others' rest]

theorem oneLine_indent {depth : Nat} {text : String} (h : OneLine text) :
    OneLine (indent depth text) := by
  refine oneLine_append.2 ⟨?_, h⟩
  rw [OneLine, String.toList_ofList]
  intro mem
  exact absurd (List.eq_of_mem_replicate mem) (by decide)

theorem oneLine_openingTag {name attributes : String} (hn : OneLine name) (ha : OneLine attributes) :
    OneLine (openingTag name attributes) := by
  have front : OneLine "<" := by decide
  have blank : OneLine " " := by decide
  have back : OneLine ">" := by decide
  unfold openingTag
  split
  · simp only [oneLine_append]
    exact ⟨⟨front, hn⟩, back⟩
  · simp only [oneLine_append]
    exact ⟨⟨⟨⟨front, hn⟩, blank⟩, ha⟩, back⟩

theorem oneLine_closingTag {name : String} (hn : OneLine name) : OneLine (closingTag name) := by
  have front : OneLine "</" := by decide
  have back : OneLine ">" := by decide
  simp only [closingTag, oneLine_append]
  exact ⟨⟨front, hn⟩, back⟩

theorem oneLine_closeAll {tags : List String} (h : ∀ name ∈ tags, OneLine name) :
    ∀ line ∈ closeAll tags, OneLine line := by
  induction tags with
  | nil => exact fun _ mem => absurd mem List.not_mem_nil
  | cons name outer ih =>
    obtain ⟨here, others⟩ := List.forall_mem_cons.1 h
    exact List.forall_mem_cons.2 ⟨oneLine_indent (oneLine_closingTag here), ih others⟩

/-- One step, one line. -/
theorem oneLine_layout {steps : List Step} {tags : List String} (hs : ∀ s ∈ steps, s.OneLine)
    (ht : ∀ name ∈ tags, OneLine name) : ∀ line ∈ layout tags steps, OneLine line := by
  induction steps generalizing tags with
  | nil =>
    rw [layout]
    exact oneLine_closeAll ht
  | cons step rest ih =>
    obtain ⟨here, others⟩ := List.forall_mem_cons.1 hs
    cases step with
    | line text =>
      rw [layout]
      exact List.forall_mem_cons.2 ⟨oneLine_indent here, ih others ht⟩
    | opening name attributes =>
      rw [layout]
      exact List.forall_mem_cons.2 ⟨oneLine_indent (oneLine_openingTag here.1 here.2),
        ih others (List.forall_mem_cons.2 ⟨here.1, ht⟩)⟩
    | closing =>
      cases tags with
      | nil =>
        rw [layout]
        exact ih others ht
      | cons name outer =>
        obtain ⟨innermost, outside⟩ := List.forall_mem_cons.1 ht
        rw [layout]
        exact List.forall_mem_cons.2 ⟨oneLine_indent (oneLine_closingTag innermost),
          ih others outside⟩
    | element name attributes text =>
      rw [layout]
      refine List.forall_mem_cons.2 ⟨oneLine_indent ?_, ih others ht⟩
      exact oneLine_append.2 ⟨oneLine_append.2 ⟨oneLine_openingTag here.1.1 here.1.2, here.2⟩,
        oneLine_closingTag here.1.1⟩

/-- The lines that steps write can be told from the markup. -/
theorem layout_eq_of_render_eq {steps steps' : List Step} (h : ∀ s ∈ steps, s.OneLine)
    (h' : ∀ s ∈ steps', s.OneLine) (same : render steps = render steps') :
    layout [] steps = layout [] steps' :=
  ofLines_injective (oneLine_layout h fun _ mem => absurd mem List.not_mem_nil)
    (oneLine_layout h' fun _ mem => absurd mem List.not_mem_nil) same

/-! ### From a line to its text -/

/-- The line begins with a tag. -/
def Tagged (text : String) : Prop := text.toList.head? = some '<'

instance (text : String) : Decidable (Tagged text) :=
  inferInstanceAs (Decidable (text.toList.head? = some '<'))

theorem Tagged.append {s : String} (h : Tagged s) (t : String) : Tagged (s ++ t) := by
  unfold Tagged at h ⊢
  rw [String.toList_append, List.head?_append, h]
  rfl

theorem tagged_openingTag (name attributes : String) : Tagged (openingTag name attributes) := by
  obtain ⟨tail, chars, -⟩ := toList_openingTag name attributes
  rw [Tagged, chars]
  rfl

theorem tagged_closingTag (name : String) : Tagged (closingTag name) := by
  rw [Tagged, toList_closingTag]
  rfl

/-- The depth of a line is read off the blanks in front of its tag. -/
theorem indent_inj {d e : Nat} {s t : String} (hs : Tagged s) (ht : Tagged t)
    (h : indent d s = indent e t) : d = e ∧ s = t := by
  have blanks (n : Nat) {text : String} (tagged : Tagged text) :
      (List.replicate n ' ' ++ text.toList).takeWhile (· == ' ') = List.replicate n ' ' := by
    obtain ⟨tail, chars⟩ := List.head?_eq_some_iff.1 tagged
    rw [chars, List.takeWhile_append_of_pos fun c hc => beq_iff_eq.2 (List.eq_of_mem_replicate hc),
      List.takeWhile_cons_of_neg (by decide), List.append_nil]
  have chars : List.replicate (2 * d) ' ' ++ s.toList = List.replicate (2 * e) ' ' ++ t.toList := by
    have := congrArg String.toList h
    simpa only [indent, String.toList_append, String.toList_ofList] using this
  have front := congrArg (List.takeWhile (· == ' ')) chars
  rw [blanks _ hs, blanks _ ht] at front
  have depth : d = e := by
    have := congrArg List.length front
    rw [List.length_replicate, List.length_replicate] at this
    omega
  subst depth
  exact ⟨rfl, String.toList_inj.1 (List.append_cancel_left chars)⟩

theorem indent_right_inj {d : Nat} {s t : String} (h : indent d s = indent d t) : s = t :=
  (String.append_right_inj _).1 h

theorem openingTag_right_inj {name a b : String} (ha : a ≠ "") (hb : b ≠ "")
    (h : openingTag name a = openingTag name b) : a = b := by
  have nonempty {s : String} (hs : s ≠ "") : ¬s.isEmpty = true := by simpa using hs
  rw [openingTag, if_neg (nonempty ha), openingTag, if_neg (nonempty hb)] at h
  exact (String.append_right_inj _).1 ((String.append_left_inj _).1 h)

/-- What stands between given ends is known from the whole. -/
theorem between_inj {front back s t : String} (h : front ++ s ++ back = front ++ t ++ back) :
    s = t :=
  (String.append_right_inj _).1 ((String.append_left_inj _).1 h)

/-! ### Escaped texts -/

/-- The character that an escaped text begins with, and what is behind it. -/
def readChar : List Char → Option (Char × List Char)
  | '&' :: 'a' :: 'm' :: 'p' :: ';' :: rest => some ('&', rest)
  | '&' :: 'l' :: 't' :: ';' :: rest => some ('<', rest)
  | '&' :: 'g' :: 't' :: ';' :: rest => some ('>', rest)
  | '<' :: 'b' :: 'r' :: ' ' :: '/' :: '>' :: rest => some ('\n', rest)
  | c :: rest => some (c, rest)
  | [] => none

theorem readChar_escapeChar (c : Char) (rest : List Char) :
    readChar (escapeChar c ++ rest) = some (c, rest) := by
  by_cases feed : c = '\n'
  · subst feed
    rfl
  · rw [escapeChar_of_ne feed, encodeChar]
    split
    · next amp =>
      subst amp
      rfl
    · next amp =>
      split
      · next lt =>
        subst lt
        rfl
      · next lt =>
        split
        · next gt =>
          subst gt
          rfl
        · -- the character stands for itself, and neither an entity nor a break begins with it
          simp [readChar, amp, lt]

/-- No two texts look alike when escaped. -/
theorem escape_injective : Function.Injective escape := by
  have chars (a b : List Char) (h : a.flatMap escapeChar = b.flatMap escapeChar) : a = b := by
    induction a generalizing b with
    | nil =>
      cases b with
      | nil => rfl
      | cons d b =>
        have read := readChar_escapeChar d (b.flatMap escapeChar)
        rw [← List.flatMap_cons, ← h] at read
        cases read
    | cons c a ih =>
      have first := readChar_escapeChar c (a.flatMap escapeChar)
      rw [← List.flatMap_cons, h] at first
      cases b with
      | nil => cases first
      | cons d b =>
        rw [List.flatMap_cons, readChar_escapeChar] at first
        obtain ⟨rfl, rest⟩ := Prod.mk.inj (Option.some.inj first)
        rw [ih b rest.symm]
  intro s t h
  have escaped := congrArg String.toList h
  rw [toList_escape, toList_escape] at escaped
  exact String.toList_inj.1 (chars _ _ escaped)

theorem oneLine_escape (text : String) : OneLine (escape text) := by
  have char (c : Char) : '\n' ∉ escapeChar c := by
    by_cases feed : c = '\n'
    · subst feed
      decide
    · rw [escapeChar_of_ne feed, encodeChar]
      split
      · decide
      · split
        · decide
        · split
          · decide
          · exact fun mem => feed (List.mem_singleton.1 mem).symm
  rw [OneLine, toList_escape]
  intro mem
  obtain ⟨c, -, hc⟩ := List.mem_flatMap.1 mem
  exact char c hc

end WorkflowLint.Markup
