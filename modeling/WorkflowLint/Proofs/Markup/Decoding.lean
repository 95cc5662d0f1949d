import WorkflowLint.Proofs.Markup.Lines

/-!
# Decoding an escaped text

An escaped text is read back in two steps, each the reverse of one that made it: line breaks become
line feeds, then every entity becomes its character, once (`unescape_escape`). That is lossless
because no line break of the text itself is left to be taken for one that was put in, and because an
ampersand stands in front of an entity only (`begins_escape`). A reader who looks for an element of the
markup is shown the same text in it (`shownIn_eq`).
-/

set_option autoImplicit false

namespace WorkflowLint.Markup

/-- The text with a line feed in place of every line break. -/
def unbreak : List Char → List Char
  | '<' :: 'b' :: 'r' :: ' ' :: '/' :: '>' :: rest => '\n' :: unbreak rest
  | c :: rest => c :: unbreak rest
  | [] => []

def entities : List String := ["&amp;", "&lt;", "&gt;"]

/-- The text with its character in place of every entity; a character that comes from an entity is
not looked at again. -/
def decodeEntities : List Char → List Char
  | '&' :: 'a' :: 'm' :: 'p' :: ';' :: rest => '&' :: decodeEntities rest
  | '&' :: 'l' :: 't' :: ';' :: rest => '<' :: decodeEntities rest
  | '&' :: 'g' :: 't' :: ';' :: rest => '>' :: decodeEntities rest
  | c :: rest => c :: decodeEntities rest
  | [] => []

/-- The text that markup shows. -/
def unescape (markup : String) : String := String.ofList (decodeEntities (unbreak markup.toList))

/-- Wherever the character stands in the text, one of the words begins. -/
def Begins (c : Char) (words : List String) (cs : List Char) : Prop :=
  ∀ front back, cs = front ++ c :: back → ∃ word ∈ words, word.toList <+: c :: back

/-- What a reader of markup is shown for a piece of it. -/
def Piece.shown : Piece → List Char
  | .tag text => if text = lineBreak then ['\n'] else []
  | .char c => [c]

/-- The text that is shown in the first element with this opening tag. -/
def shownIn (opening closing : String) (markup : String) : String :=
  let element := (pieces markup).dropWhile fun p => p != .tag opening
  let inside := element.tail.takeWhile fun p => p != .tag closing
  String.ofList (decodeEntities (inside.flatMap Piece.shown))

/-! ### Decoding -/

theorem unbreak_breakChar {c : Char} (h : c ≠ '<') (rest : List Char) :
    unbreak (breakChar c ++ rest) = c :: unbreak rest := by
  by_cases feed : c = '\n'
  · subst feed
    rfl
  · simp [breakChar, feed, unbreak, h]

/-- Only the line breaks that were put in are taken for line breaks. -/
theorem unbreak_flatMap_breakChar {cs : List Char} (plain : Plain cs) :
    unbreak (cs.flatMap breakChar) = cs := by
  induction cs with
  | nil => rfl
  | cons c cs ih =>
    obtain ⟨here, others⟩ := List.forall_mem_cons.1 plain
    rw [List.flatMap_cons, unbreak_breakChar here.1, ih others]

theorem decodeEntities_encodeChar (c : Char) (rest : List Char) :
    decodeEntities (encodeChar c ++ rest) = c :: decodeEntities rest := by
  unfold encodeChar
  split
  · next amp =>
    subst amp
    rfl
  · next amp =>
    split
    · next lt =>
      subst lt
      rfl
    · split
      · next gt =>
        subst gt
        rfl
      · -- the character stands for itself, and no entity begins with it
        simp [decodeEntities, amp]

theorem decodeEntities_flatMap_encodeChar (cs : List Char) :
    decodeEntities (cs.flatMap encodeChar) = cs := by
  induction cs with
  | nil => rfl
  | cons c cs ih => rw [List.flatMap_cons, decodeEntities_encodeChar, ih]

theorem plain_flatMap_encodeChar (cs : List Char) : Plain (cs.flatMap encodeChar) := by
  intro d hd
  obtain ⟨c, -, mem⟩ := List.mem_flatMap.1 hd
  exact plain_encodeChar c d mem

/-- Nothing is lost, whatever the text spells out. -/
theorem unescape_escape (text : String) : unescape (escape text) = text := by
  rw [unescape, escape, String.toList_ofList,
    unbreak_flatMap_breakChar (plain_flatMap_encodeChar _), decodeEntities_flatMap_encodeChar,
    String.ofList_toList]

/-! ### Ampersands -/

namespace Begins

variable {c : Char} {words : List String} {cs ds : List Char}

theorem of_not_mem (h : c ∉ cs) : Begins c words cs := by
  rintro front back rfl
  exact absurd (List.mem_append_right front List.mem_cons_self) h

theorem word (word : String) (mem : word ∈ words) {tail : List Char} (h : word.toList = c :: tail)
    (once : c ∉ tail) : Begins c words word.toList := by
  intro front back split
  rw [h] at split
  cases front with
  | nil =>
    refine ⟨word, mem, ?_⟩
    rw [h, split]
    exact List.prefix_refl _
  | cons d front =>
    obtain ⟨-, rfl⟩ := List.cons.inj split
    exact absurd (List.mem_append_right front List.mem_cons_self) once

theorem append (h : Begins c words cs) (h' : Begins c words ds) : Begins c words (cs ++ ds) := by
  intro front back split
  rcases List.append_eq_append_iff.1 split with ⟨more, rfl, rfl⟩ | ⟨more, rfl, rest⟩
  · exact h' more back rfl
  · cases more with
    | nil =>
      rw [List.nil_append] at rest
      exact h' [] back rest.symm
    | cons d more =>
      obtain ⟨rfl, rfl⟩ := List.cons.inj rest
      obtain ⟨word, mem, starts⟩ := h front more rfl
      exact ⟨word, mem, starts.trans (List.prefix_append _ _)⟩

theorem flatMap {g : Char → List Char} (h : ∀ d ∈ cs, Begins c words (g d)) :
    Begins c words (cs.flatMap g) := by
  induction cs with
  | nil => exact of_not_mem List.not_mem_nil
  | cons d cs ih =>
    obtain ⟨here, others⟩ := List.forall_mem_cons.1 h
    exact append here (ih others)

end Begins

theorem begins_escapeChar (c : Char) : Begins '&' entities (escapeChar c) := by
  by_cases feed : c = '\n'
  · subst feed
    exact .of_not_mem (by decide)
  · rw [escapeChar_of_ne feed]
    unfold encodeChar
    split
    · exact Begins.word "&amp;" (by decide) rfl (by decide)
    · next amp =>
      split
      · exact Begins.word "&lt;" (by decide) rfl (by decide)
      · split
        · exact Begins.word "&gt;" (by decide) rfl (by decide)
        · exact .of_not_mem fun mem => amp (List.mem_singleton.1 mem).symm

/-- An ampersand is the beginning of an entity. -/
theorem begins_escape (text : String) : Begins '&' entities (escape text).toList := by
  rw [toList_escape]
  exact .flatMap fun c _ => begins_escapeChar c

/-! ### What is shown -/

/-- The pieces that stand for a character. -/
def piecesOf (c : Char) : List Piece :=
  if c = '\n' then [.tag lineBreak] else (encodeChar c).map .char

theorem piecesFrom_plain {cs : List Char} (h : Plain cs) (rest : List Char) :
    piecesFrom none (cs ++ rest) = cs.map .char ++ piecesFrom none rest := by
  induction cs with
  | nil => rfl
  | cons c cs ih =>
    obtain ⟨here, others⟩ := List.forall_mem_cons.1 h
    rw [List.cons_append, piecesFrom_char here.1, ih others, List.map_cons, List.cons_append]

/-- Behind a `>` no tag is being read. -/
theorem piecesFrom_append {cs : List Char} (h : cs.getLast? = some '>') (held : Option (List Char))
    (rest : List Char) :
    piecesFrom held (cs ++ rest) = piecesFrom held cs ++ piecesFrom none rest := by
  induction cs generalizing held with
  | nil => cases h
  | cons c cs ih =>
    cases cs with
    | nil =>
      have ends : c = '>' := Option.some.inj h
      subst ends
      cases held <;> rfl
    | cons d cs =>
      have last : (d :: cs).getLast? = some '>' := h
      cases held with
      | none =>
        rw [List.cons_append, piecesFrom, piecesFrom, ih last, ih last]
        split <;> rfl
      | some held =>
        rw [List.cons_append, piecesFrom, piecesFrom, ih last, ih last]
        split <;> rfl

theorem piecesFrom_escape (text : String) (rest : List Char) :
    piecesFrom none ((escape text).toList ++ rest) =
      text.toList.flatMap piecesOf ++ piecesFrom none rest := by
  rw [toList_escape]
  induction text.toList with
  | nil => rfl
  | cons c cs ih =>
    rw [List.flatMap_cons, List.flatMap_cons, List.append_assoc, List.append_assoc, ← ih]
    by_cases feed : c = '\n'
    · have body : Plain "br /".toList := by decide
      rw [feed, escapeChar_newline, piecesFrom_tag body (by decide)]
      rfl
    · rw [escapeChar_of_ne feed, piecesFrom_plain (plain_encodeChar c), piecesOf, if_neg feed]

/-- The pieces of an escaped text show the text. -/
theorem decodeEntities_shown (cs : List Char) :
    decodeEntities ((cs.flatMap piecesOf).flatMap Piece.shown) = cs := by
  have char (c : Char) : (piecesOf c).flatMap Piece.shown = encodeChar c := by
    unfold piecesOf
    split
    · next feed =>
      subst feed
      decide
    · rw [List.flatMap_map]
      exact List.flatMap_singleton' _
  rw [List.flatMap_assoc]
  simp only [char]
  exact decodeEntities_flatMap_encodeChar cs

/-- An element around an escaped text shows the text. -/
theorem shownIn_eq {opening closing markup text : String} {front back : List Piece}
    (h : pieces markup = front ++ (text.toList.flatMap piecesOf ++ .tag closing :: back))
    (first : front.dropWhile (fun p => p != .tag opening) = [.tag opening])
    (ends : closing ≠ lineBreak) : shownIn opening closing markup = text := by
  have inside : ∀ p ∈ text.toList.flatMap piecesOf, (p != .tag closing) = true := by
    intro p mem
    obtain ⟨c, -, hp⟩ := List.mem_flatMap.1 mem
    refine bne_iff_ne.2 ?_
    rintro rfl
    unfold piecesOf at hp
    split at hp
    · exact ends (Piece.tag.inj (List.mem_singleton.1 hp))
    · obtain ⟨_, -, e⟩ := List.mem_map.1 hp
      cases e
  unfold shownIn
  rw [h, List.dropWhile_append, first, if_neg (by simp)]
  dsimp only [List.singleton_append, List.tail_cons]
  rw [List.takeWhile_append_of_pos inside, List.takeWhile_cons_of_neg (by simp), List.append_nil,
    decodeEntities_shown, String.ofList_toList]

end WorkflowLint.Markup
