import WorkflowLint.Text.Blank

/-!
# Words and phrases

A text is a phrase if it consists of words with one separator between two of them. The words of a
text put together with single spaces between them are again its words (`words_intercalate`), and
they are the text itself exactly if it was such a phrase (`phrase_iff`).
-/

set_option autoImplicit false

namespace WorkflowLint.Text

/-- Words with one separator between two of them. -/
inductive Phrase (separator : Char → Prop) (word : List Char → Prop) : List Char → Prop
  | last {w : List Char} (hw : word w) : Phrase separator word w
  | more {w rest : List Char} {b : Char} (hw : word w) (hb : separator b)
      (behind : Phrase separator word rest) : Phrase separator word (w ++ b :: rest)

theorem Phrase.mono {separator separator' : Char → Prop} {word word' : List Char → Prop}
    {text : List Char} (h : Phrase separator word text) (hs : ∀ b, separator b → separator' b)
    (hw : ∀ w, word w → word' w) : Phrase separator' word' text := by
  induction h with
  | last w => exact .last (hw _ w)
  | more w b _ ih => exact .more (hw _ w) (hs _ b) ih

/-- Characters without a blank among them, at least one. -/
def IsWord (w : List Char) : Prop := w ≠ [] ∧ ∀ c ∈ w, isBlank c = false

/-- Where a text stops to have a property. -/
theorem exists_eq_append (p : Char → Bool) (text : List Char) :
    ∃ front, text = front ++ text.dropWhile p ∧ (∀ c ∈ front, p c = true) ∧
      ∀ c ∈ (text.dropWhile p).head?, p c = false := by
  refine ⟨text.takeWhile p, List.takeWhile_append_dropWhile.symm, ?_, fun c hc => ?_⟩
  · exact List.all_eq_true.1 List.all_takeWhile
  · have stops := List.head?_dropWhile_not p text
    rwa [hc] at stops

/-! ### Words of a text -/

theorem isWord_of_mem_words {text w : List Char} (h : w ∈ words text) : IsWord w := mem_words h

theorem wordsFrom_append {u w : List Char} (free : ∀ c ∈ w, isBlank c = false) (rest : List Char) :
    wordsFrom u (w ++ rest) = wordsFrom (w.reverse ++ u) rest := by
  induction w generalizing u with
  | nil => rfl
  | cons c w ih =>
    obtain ⟨here, others⟩ := List.forall_mem_cons.1 free
    rw [List.cons_append, wordsFrom, if_neg (by simp [here]), ih others, List.reverse_cons,
      List.append_assoc, List.singleton_append]

theorem words_of_isWord {w : List Char} (h : IsWord w) : words w = [w] := by
  have single := wordsFrom_append (u := []) h.2 []
  rw [List.append_nil] at single
  rw [words, single, wordsFrom, if_neg (by simp [h.1])]
  simp

theorem words_cons_of_isBlank {b : Char} (hb : isBlank b = true) (text : List Char) :
    words (b :: text) = words text :=
  words_append_cons hb [] text

/-- Up to the first blank there is one word, or none. -/
theorem words_append_of_blank {w rest : List Char} (free : ∀ c ∈ w, isBlank c = false)
    (ends : ∀ c ∈ rest.head?, isBlank c = true) :
    words (w ++ rest) = (if w = [] then [] else [w]) ++ words rest := by
  have first : words w = if w = [] then [] else [w] := by
    split
    · next empty => rw [empty]; rfl
    · next nonempty => exact words_of_isWord ⟨nonempty, free⟩
  cases rest with
  | nil => rw [List.append_nil, first]; simp [words, wordsFrom]
  | cons b rest =>
    have hb : isBlank b = true := ends b rfl
    rw [words_append_cons hb, first, words_cons_of_isBlank hb]

/-- Cut at its first blank, a text has a word in front of the others, or no character. -/
theorem exists_words_eq (text : List Char) :
    ∃ w behind, text = w ++ behind ∧ (∀ c ∈ w, isBlank c = false) ∧
      (∀ c ∈ behind.head?, isBlank c = true) := by
  obtain ⟨w, parted, free, ends⟩ := exists_eq_append (fun c => !isBlank c) text
  exact ⟨w, _, parted, fun c hc => by simpa using free c hc, fun c hc => by simpa using ends c hc⟩

/-- The characters of the words stand in the text. -/
theorem mem_of_mem_wordsFrom {u text w : List Char} {c : Char} (h : w ∈ wordsFrom u text)
    (hc : c ∈ w) : c ∈ u ∨ c ∈ text := by
  induction text generalizing u with
  | nil =>
    rw [wordsFrom] at h
    split at h
    · cases h
    · rw [List.mem_singleton.1 h, List.mem_reverse] at hc
      exact .inl hc
  | cons d rest ih =>
    have behind (h : w ∈ wordsFrom [] rest) : c ∈ u ∨ c ∈ d :: rest :=
      (ih h).elim (fun none => absurd none List.not_mem_nil) fun hc => .inr (List.mem_cons_of_mem d hc)
    rw [wordsFrom] at h
    split at h
    · split at h
      · exact behind h
      · rcases List.mem_cons.1 h with rfl | h
        · exact .inl (List.mem_reverse.1 hc)
        · exact behind h
    · rcases ih h with hc | hc
      · rcases List.mem_cons.1 hc with rfl | hc
        · exact .inr List.mem_cons_self
        · exact .inl hc
      · exact .inr (List.mem_cons_of_mem d hc)

theorem mem_of_mem_words {text w : List Char} {c : Char} (h : w ∈ words text) (hc : c ∈ w) :
    c ∈ text :=
  (mem_of_mem_wordsFrom h hc).resolve_left List.not_mem_nil

theorem wordsFrom_ne_nil {u text : List Char} (h : u ≠ [] ∨ ∃ c ∈ text, isBlank c = false) :
    wordsFrom u text ≠ [] := by
  induction text generalizing u with
  | nil =>
    have word : u ≠ [] := h.resolve_right fun ⟨_, here, _⟩ => absurd here List.not_mem_nil
    rw [wordsFrom, if_neg (by simp [word])]
    exact List.cons_ne_nil _ _
  | cons d rest ih =>
    rw [wordsFrom]
    split
    · next blank =>
      split
      · next empty =>
        obtain ⟨c, hc, visible⟩ := h.resolve_left (not_not_intro (List.isEmpty_iff.1 empty))
        refine ih (.inr ⟨c, (List.mem_cons.1 hc).resolve_left ?_, visible⟩)
        rintro rfl
        rw [blank] at visible
        cases visible
      · exact List.cons_ne_nil _ _
    · exact ih (.inl (List.cons_ne_nil _ _))

theorem words_ne_nil {text : List Char} (h : ∃ c ∈ text, isBlank c = false) : words text ≠ [] :=
  wordsFrom_ne_nil (.inr h)

/-! ### Words put together -/

theorem words_intercalate {ws : List (List Char)} (h : ∀ w ∈ ws, IsWord w) :
    words ([' '].intercalate ws) = ws := by
  induction ws with
  | nil => rfl
  | cons w rest ih =>
    obtain ⟨first, others⟩ := List.forall_mem_cons.1 h
    cases rest with
    | nil => rw [List.intercalate_singleton, words_of_isWord first]
    | cons w' rest =>
      rw [List.intercalate_cons_cons, List.append_assoc, List.singleton_append,
        words_append_cons (by decide), words_of_isWord first, ih others, List.singleton_append]

/-- A text is a phrase with spaces between words of one kind if it is the join of its words and all
of them are of that kind. -/
theorem phrase_iff {kind : List Char → Prop} {text : List Char} :
    Phrase (· = ' ') (fun w => IsWord w ∧ kind w) text ↔
      text ≠ [] ∧ [' '].intercalate (words text) = text ∧ ∀ w ∈ words text, kind w := by
  constructor
  · intro h
    induction h with
    | last hw => simp [words_of_isWord hw.1, hw.1.1, hw.2]
    | @more w rest b hw hb behind ih =>
      obtain ⟨nonempty, joined, kinds⟩ := ih
      have some : words rest ≠ [] := fun none => nonempty (by rw [← joined, none]; rfl)
      have cut : words (w ++ b :: rest) = w :: words rest := by
        rw [hb, words_append_cons (by decide), words_of_isWord hw.1, List.singleton_append]
      refine ⟨by simp, ?_, ?_⟩
      · rw [cut, List.intercalate_cons_of_ne_nil some, joined, hb]
        simp
      · rw [cut]
        exact List.forall_mem_cons.2 ⟨hw.2, kinds⟩
  · rintro ⟨nonempty, joined, kinds⟩
    have phrase (ws : List (List Char)) (some : ws ≠ []) (h : ∀ w ∈ ws, IsWord w ∧ kind w) :
        Phrase (· = ' ') (fun w => IsWord w ∧ kind w) ([' '].intercalate ws) := by
      induction ws with
      | nil => exact absurd rfl some
      | cons w rest ih =>
        obtain ⟨first, others⟩ := List.forall_mem_cons.1 h
        cases rest with
        | nil => rw [List.intercalate_singleton]; exact .last first
        | cons w' rest =>
          rw [List.intercalate_cons_cons, List.append_assoc, List.singleton_append]
          exact .more first rfl (ih (List.cons_ne_nil _ _) others)
    rw [← joined]
    refine phrase _ (fun none => nonempty ?_) fun w hw => ⟨isWord_of_mem_words hw, kinds w hw⟩
    rw [← joined, none]
    rfl

end WorkflowLint.Text
