/-!
# Blank characters and words

`isBlank` is the White_Space property. `words` cuts a text at its blanks and drops what is empty
between two of them: no word is empty and none holds a blank (`mem_words`), and a blank in a text
parts the words before it from those behind it (`words_append_cons`).
-/

set_option autoImplicit false

namespace WorkflowLint.Text

/-- The character is White_Space. -/
def isBlank (c : Char) : Bool :=
  let code := c.toNat
  (decide (0x9 ≤ code) && decide (code ≤ 0xD)) || code == 0x20 || code == 0x85 || code == 0xA0 ||
    code == 0x1680 || (decide (0x2000 ≤ code) && decide (code ≤ 0x200A)) || code == 0x2028 ||
    code == 0x2029 || code == 0x202F || code == 0x205F || code == 0x3000

/-- The words of a text when the characters `word` precede it, the last of them first. -/
def wordsFrom (word : List Char) : List Char → List (List Char)
  | [] => if word.isEmpty then [] else [word.reverse]
  | c :: rest =>
    if isBlank c then
      if word.isEmpty then wordsFrom [] rest else word.reverse :: wordsFrom [] rest
    else wordsFrom (c :: word) rest

/-- The maximal runs of characters that are not blank. -/
def words (text : List Char) : List (List Char) := wordsFrom [] text

theorem mem_wordsFrom {word text w : List Char} (hword : ∀ c ∈ word, isBlank c = false)
    (h : w ∈ wordsFrom word text) : w ≠ [] ∧ ∀ c ∈ w, isBlank c = false := by
  have keep : ∀ u : List Char, ¬u.isEmpty = true → (∀ c ∈ u, isBlank c = false) →
      u.reverse ≠ [] ∧ ∀ c ∈ u.reverse, isBlank c = false := by
    intro u hu hc
    refine ⟨fun e => hu ?_, fun c hm => hc c (List.mem_reverse.1 hm)⟩
    rw [List.reverse_eq_nil_iff.1 e]
    rfl
  induction text generalizing word with
  | nil =>
    rw [wordsFrom] at h
    split at h
    · exact absurd h List.not_mem_nil
    · next hne => exact List.mem_singleton.1 h ▸ keep word hne hword
  | cons c rest ih =>
    rw [wordsFrom] at h
    have none : ∀ c ∈ ([] : List Char), isBlank c = false := fun c hc => absurd hc List.not_mem_nil
    split at h
    · split at h
      · exact ih none h
      · next hne =>
        rcases List.mem_cons.1 h with rfl | h
        · exact keep word hne hword
        · exact ih none h
    · next hc =>
      refine ih (fun d hd => ?_) h
      rcases List.mem_cons.1 hd with rfl | hd
      · simpa using hc
      · exact hword d hd

theorem mem_words {text w : List Char} (h : w ∈ words text) :
    w ≠ [] ∧ ∀ c ∈ w, isBlank c = false :=
  mem_wordsFrom (fun _ hc => absurd hc List.not_mem_nil) h

theorem wordsFrom_append_cons {b : Char} (hb : isBlank b = true) (word before behind : List Char) :
    wordsFrom word (before ++ b :: behind) = wordsFrom word before ++ words behind := by
  induction before generalizing word with
  | nil =>
    simp only [List.nil_append, wordsFrom, hb, if_true]
    split <;> simp [words]
  | cons c rest ih =>
    simp only [List.cons_append, wordsFrom]
    split
    · split <;> simp [ih]
    · exact ih _

theorem words_append_cons {b : Char} (hb : isBlank b = true) (before behind : List Char) :
    words (before ++ b :: behind) = words before ++ words behind :=
  wordsFrom_append_cons hb [] before behind

end WorkflowLint.Text
