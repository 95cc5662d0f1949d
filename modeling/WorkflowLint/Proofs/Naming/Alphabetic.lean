import Mathlib.Data.List.Chain
import WorkflowLint.Proofs.Naming.Ascii

/-!
# Alphabetic names

Whether a name is conventional shows in its characters and their neighbours (`conventional_iff_regular`).
A name of ASCII letters and blanks, digits in front left aside, always gets a conventional name
suggested, as long as none of its words has a fixed spelling (`Alphabetic.conventional_spelled`); a
name that is conventional already keeps its letters and gets spaces for its blanks
(`intercalate_words_of_conventional`).
-/

set_option autoImplicit false

namespace WorkflowLint.Naming

open Text (IsWord Phrase isBlank words)

variable {config : Config}

/-! ### Characters and their neighbours -/

/-- An ASCII letter. -/
def IsLetter (c : Char) : Prop := ('A' ≤ c ∧ c ≤ 'Z') ∨ ('a' ≤ c ∧ c ≤ 'z')

/-- A capital in front, no blank at the end, letters and blanks only, and a capital exactly behind a
blank. -/
structure Regular (name : List Char) : Prop where
  starts : ∃ c ∈ name.head?, 'A' ≤ c ∧ c ≤ 'Z'
  ends : ∀ c ∈ name.getLast?, isBlank c = false
  alphabet : ∀ c ∈ name, IsLetter c ∨ isBlank c = true
  neighbours : name.IsChain fun x y => ('A' ≤ y ∧ y ≤ 'Z') ↔ isBlank x = true

theorem isLetter_iff {c : Char} : IsLetter c ↔ isUpper c = true ∨ isLower c = true := by
  rw [IsLetter, isUpper_iff, isLower_iff]

theorem isUpper_of_isLower {c : Char} (h : isLower c = true) : isUpper c = false := by
  rw [isLower_iff_toNat] at h
  rw [← Bool.not_eq_true, isUpper_iff_toNat]
  omega

theorem isUpper_of_isBlank {c : Char} (h : isBlank c = true) : isUpper c = false := by
  rw [← Bool.not_eq_true]
  intro capital
  rw [isUpper_iff_toNat] at capital
  simp only [isBlank, Bool.or_eq_true, Bool.and_eq_true, decide_eq_true_eq, beq_iff_eq] at h
  omega

theorem isBlank_of_isLower {c : Char} (h : isLower c = true) : isBlank c = false := by
  rw [← Bool.not_eq_true]
  intro blank
  rw [isLower_of_isBlank blank] at h
  cases h

theorem isBlank_of_isUpper {c : Char} (h : isUpper c = true) : isBlank c = false := by
  rw [← Bool.not_eq_true]
  intro blank
  rw [isUpper_of_isBlank blank] at h
  cases h

/-- Behind a character that is no blank, the scan asks of each character what its neighbours allow. -/
theorem continues_iff_neighbours {rest : List Char} {c : Char} (hc : isBlank c = false) :
    continues rest = true ↔
      (c :: rest).IsChain (fun x y => isUpper y = true ↔ isBlank x = true) ∧
        (∀ d ∈ rest, IsLetter d ∨ isBlank d = true) ∧
        ∀ d ∈ (c :: rest).getLast?, isBlank d = false := by
  induction rest using continues.induct generalizing c with
  | case1 => simp [continues, hc]
  | case2 d =>
    have small := isUpper_of_isLower (c := d)
    have letter := isBlank_of_isLower (c := d)
    simp only [continues, List.isChain_cons_cons, List.IsChain.singleton, hc, isLetter_iff]
    grind
  | case3 d e rest hd ih =>
    have small := isUpper_of_isLower hd
    rw [continues, if_pos hd, ih (isBlank_of_isLower hd), List.isChain_cons_cons (b := d),
      List.forall_mem_cons (a := d), List.getLast?_cons_cons]
    simp [hd, small, hc, isLetter_iff]
  | case4 d e rest hd ih =>
    rw [continues, if_neg hd, Bool.and_eq_true, Bool.and_eq_true, List.isChain_cons_cons,
      List.isChain_cons_cons, List.forall_mem_cons, List.forall_mem_cons, List.getLast?_cons_cons,
      List.getLast?_cons_cons]
    by_cases parted : isBlank d = true ∧ isUpper e = true
    · obtain ⟨blank, capital⟩ := parted
      rw [ih (isBlank_of_isUpper capital)]
      simp [blank, capital, hc, isUpper_of_isBlank blank, isLetter_iff]
    · -- a character that is neither a small letter nor a blank is a capital behind no blank
      refine iff_of_false (fun h => parted h.1) ?_
      rintro ⟨⟨first, second, -⟩, ⟨known, -⟩, -⟩
      have small : isUpper d = false := by simpa [hc] using first
      have blank : isBlank d = true := by simpa [isLetter_iff, small, hd] using known
      exact parted ⟨blank, second.2 blank⟩

theorem regular_cons_iff {c : Char} {rest : List Char} :
    Regular (c :: rest) ↔ isUpper c = true ∧
      (c :: rest).IsChain (fun x y => isUpper y = true ↔ isBlank x = true) ∧
        (∀ d ∈ rest, IsLetter d ∨ isBlank d = true) ∧
        ∀ d ∈ (c :: rest).getLast?, isBlank d = false := by
  simp only [isUpper_iff]
  constructor
  · rintro ⟨⟨d, first, capital⟩, ends, alphabet, neighbours⟩
    obtain rfl := Option.some.inj first
    exact ⟨capital, neighbours, (List.forall_mem_cons.1 alphabet).2, ends⟩
  · rintro ⟨capital, neighbours, alphabet, ends⟩
    exact ⟨⟨c, rfl, capital⟩, ends, List.forall_mem_cons.2 ⟨.inl (.inl capital), alphabet⟩, neighbours⟩

theorem not_regular_nil : ¬Regular [] := by
  intro h
  obtain ⟨_, none, -⟩ := h.starts
  cases none

/-- A name is conventional if its characters and their neighbours are. -/
theorem conventional_iff_regular {name : List Char} : Conventional name ↔ Regular name := by
  cases name with
  | nil => exact iff_of_false not_conventional_nil not_regular_nil
  | cons c rest =>
    rw [conventional_cons_iff, regular_cons_iff, ← continues_iff]
    exact and_congr_right fun capital => continues_iff_neighbours (isBlank_of_isUpper capital)

/-! ### Suggestions for alphabetic names -/

/-- ASCII letters and blanks, at least one letter. -/
structure Alphabetic (text : List Char) : Prop where
  alphabet : ∀ c ∈ text, IsLetter c ∨ isBlank c = true
  letter : ∃ c ∈ text, IsLetter c

/-- Being alphabetic can be tested character by character. -/
theorem alphabetic_iff {text : List Char} : Alphabetic text ↔
    (text.all fun c => isUpper c || isLower c || isBlank c) = true ∧
      (text.any fun c => isUpper c || isLower c) = true := by
  simp only [List.all_eq_true, List.any_eq_true, Bool.or_eq_true, ← isLetter_iff]
  exact ⟨fun h => ⟨h.alphabet, h.letter⟩, fun h => ⟨h.1, h.2⟩⟩

/-- No word of the text has a fixed spelling. -/
def Unfixed (config : Config) (text : List Char) : Prop :=
  ∀ word ∈ words text, config.namingException? (String.ofList word) = none

theorem isUpper_toUpper {c : Char} (h : IsLetter c) : isUpper c.toUpper = true := by
  rw [isLetter_iff, isUpper_iff_toNat, isLower_iff_toNat] at h
  rw [isUpper_iff_toNat, Text.toNat_toUpper]
  split <;> omega

theorem isLower_toLower {c : Char} (h : IsLetter c) : isLower c.toLower = true := by
  rw [isLetter_iff, isUpper_iff_toNat, isLower_iff_toNat] at h
  rw [isLower_iff_toNat, Text.toNat_toLower]
  split <;> omega

theorem isBlank_of_isLetter {c : Char} (h : IsLetter c) : isBlank c = false :=
  (isLetter_iff.1 h).elim isBlank_of_isUpper isBlank_of_isLower

theorem toNat_lt_of_isLetter {c : Char} (h : IsLetter c) : c.toNat < 128 := by
  rw [isLetter_iff, isUpper_iff_toNat, isLower_iff_toNat] at h
  omega

theorem capitalised_capitalize {word : List Char} (nonempty : word ≠ [])
    (letters : ∀ c ∈ word, IsLetter c) : Capitalised (capitalize word) := by
  cases word with
  | nil => exact absurd rfl nonempty
  | cons c rest =>
    obtain ⟨here, others⟩ := List.forall_mem_cons.1 letters
    rw [capitalize_of_ascii fun d hd => toNat_lt_of_isLetter (letters d hd), capitalised_cons_iff,
      List.forall_mem_map]
    exact ⟨isUpper_toUpper here, fun d hd => isLower_toLower (others d hd)⟩

/-- The case of ASCII letters is all that capitalising changes in an ASCII word. -/
theorem map_toLower_capitalize {word : List Char} (ascii : IsAscii word) :
    (capitalize word).map Char.toLower = word.map Char.toLower := by
  have same := Config.sameWord_iff.1 (sameWord_capitalize ascii)
  rwa [String.toList_ofList, String.toList_ofList] at same

namespace Alphabetic

variable {text word : List Char} (h : Alphabetic text)

include h

theorem letters_of_mem_words (mem : word ∈ words text) : ∀ c ∈ word, IsLetter c := by
  intro c hc
  have visible := (Text.isWord_of_mem_words mem).2 c hc
  refine (h.alphabet c (Text.mem_of_mem_words mem hc)).resolve_right ?_
  rw [visible]
  exact Bool.false_ne_true

/-- What is suggested for an alphabetic text is conventional: each word is capitalised. -/
theorem conventional_spelled (unfixed : Unfixed config text) :
    Conventional ([' '].intercalate ((words text).map (spell config))) := by
  have capitalised : ∀ w ∈ (words text).map (spell config), Capitalised w := by
    refine List.forall_mem_map.2 fun word mem => ?_
    rw [spell_of_none (unfixed word mem)]
    exact capitalised_capitalize (Text.isWord_of_mem_words mem).1 (h.letters_of_mem_words mem)
  have cut : words ([' '].intercalate ((words text).map (spell config))) =
      (words text).map (spell config) :=
    Text.words_intercalate (List.forall_mem_map.2 fun word mem =>
      isWord_spell (Text.isWord_of_mem_words mem))
  have some : words text ≠ [] := by
    obtain ⟨c, hc, letter⟩ := h.letter
    exact Text.words_ne_nil ⟨c, hc, isBlank_of_isLetter letter⟩
  have phrase : Text.Phrase (· = ' ') (fun w => IsWord w ∧ Capitalised w)
      ([' '].intercalate ((words text).map (spell config))) := by
    refine Text.phrase_iff.2 ⟨fun none => ?_, congrArg _ cut, cut.symm ▸ capitalised⟩
    rw [none] at cut
    exact some (List.map_eq_nil_iff.1 cut.symm)
  exact phrase.mono (fun b space => space ▸ rfl) fun w hw => hw.2

end Alphabetic

/-! ### Suggestions for conventional names -/

/-- A space for every blank. -/
def spaced (c : Char) : Char := if isBlank c then ' ' else c

theorem map_spaced_of_isWord {w : List Char} (h : IsWord w) : w.map spaced = w := by
  refine (List.map_congr_left fun c hc => ?_).trans (List.map_id w)
  rw [spaced, if_neg (by simp [h.2 c hc])]
  rfl

namespace Capitalised

variable {w : List Char} (h : Capitalised w)

include h

theorem isLetter : ∀ c ∈ w, IsLetter c := by
  obtain ⟨c, rest, rfl, capital, small⟩ := h
  exact List.forall_mem_cons.2 ⟨.inl capital, fun d hd => .inr (small d hd)⟩

theorem isWord : IsWord w := by
  refine ⟨?_, fun c hc => isBlank_of_isLetter (h.isLetter c hc)⟩
  obtain ⟨c, rest, rfl, -⟩ := h
  exact List.cons_ne_nil c rest

theorem capitalize_eq_self : capitalize w = w := by
  rw [capitalize_eq_self_iff fun c hc => toNat_lt_of_isLetter (h.isLetter c hc)]
  obtain ⟨c, rest, rfl, capital, small⟩ := h
  simp only [← isUpper_iff, ← isLower_iff] at capital small ⊢
  refine ⟨fun d hd lower => ?_, fun d hd => ?_⟩
  · obtain rfl := Option.some.inj hd
    rw [isUpper_of_isLower lower] at capital
    cases capital
  · rw [isUpper_of_isLower (small d hd)]
    exact Bool.false_ne_true

end Capitalised

/-- The words of a conventional name are capitalised, and only its blanks may change when they are put
together again. -/
theorem intercalate_words_of_conventional {name : List Char} (h : Conventional name) :
    (∀ w ∈ words name, Capitalised w) ∧ [' '].intercalate (words name) = name.map spaced := by
  induction h with
  | @last w hw =>
    rw [Text.words_of_isWord hw.isWord, List.intercalate_singleton, map_spaced_of_isWord hw.isWord]
    exact ⟨by simpa using hw, rfl⟩
  | @more w rest b hw hb behind ih =>
    obtain ⟨capitalised, joined⟩ := ih
    have some : words rest ≠ [] := by
      intro none
      rw [none] at joined
      exact not_conventional_nil (List.map_eq_nil_iff.1 joined.symm ▸ behind)
    rw [Text.words_append_cons hb, Text.words_of_isWord hw.isWord, List.singleton_append,
      List.intercalate_cons_of_ne_nil some, joined, List.map_append, List.map_cons,
      map_spaced_of_isWord hw.isWord, spaced, if_pos hb]
    exact ⟨List.forall_mem_cons.2 ⟨hw, capitalised⟩, by simp⟩

/-- **Convention and suggestion.** The convention is a matter of characters and their neighbours. What
is suggested for a name of letters and blanks is conventional, has the words of the name in their
order with single spaces between them, and is its own suggestion. A conventional name gets itself
suggested, with a space for every blank. -/
theorem convention_and_suggestion (config : Config) :
    (∀ name : String, followsConvention name = true ↔ Regular name.toList) ∧
    (∀ name : String, Alphabetic (stripLeadingDigits name).toList →
      Unfixed config (stripLeadingDigits name).toList →
      followsConvention (suggest config name) = true ∧
      (words (suggest config name).toList).map (List.map Char.toLower) =
        (words (stripLeadingDigits name).toList).map (List.map Char.toLower) ∧
      [' '].intercalate (words (suggest config name).toList) = (suggest config name).toList ∧
      suggest config (suggest config name) = suggest config name) ∧
    ∀ name : String, followsConvention name = true → Unfixed config name.toList →
      (suggest config name).toList = name.toList.map spaced := by
  refine ⟨fun name => ?_, fun name alphabetic unfixed => ?_, fun name conventional unfixed => ?_⟩
  · rw [followsConvention_iff, conventional_iff_regular]
  · have conventional : Conventional (suggest config name).toList :=
      toList_suggest config name ▸ alphabetic.conventional_spelled unfixed
    have ascii : ∀ word ∈ words (stripLeadingDigits name).toList, IsAscii word :=
      fun word mem c hc => toNat_lt_of_isLetter (alphabetic.letters_of_mem_words mem c hc)
    refine ⟨(followsConvention_iff _).2 conventional, ?_, ?_, ?_⟩
    · rw [words_suggest, List.map_map]
      refine List.map_congr_left fun word mem => ?_
      rw [Function.comp_apply, spell_of_none (unfixed word mem), map_toLower_capitalize (ascii word mem)]
    · rw [words_suggest, toList_suggest]
    · exact suggest_suggest_iff.2 ⟨not_startsWithDigit_of_conventional conventional,
        fun word mem => steady_of_ascii (ascii word mem)⟩
  · rw [followsConvention_iff] at conventional
    obtain ⟨capitalised, joined⟩ := intercalate_words_of_conventional conventional
    have kept : (words name.toList).map (spell config) = words name.toList := by
      refine (List.map_congr_left fun word mem => ?_).trans (List.map_id _)
      rw [spell_of_none (unfixed word mem), (capitalised word mem).capitalize_eq_self]
      rfl
    rw [toList_suggest, stripLeadingDigits_eq_self (not_startsWithDigit_of_conventional conventional),
      kept, joined]

/-- Digits in front, capitals in the wrong places and a blank that is no space. -/
theorem convention_and_suggestion_orderTotal :
    Alphabetic (stripLeadingDigits "12 oRDER \u2003tOTAL").toList ∧
      Unfixed .builtIn (stripLeadingDigits "12 oRDER \u2003tOTAL").toList ∧
      followsConvention (suggest .builtIn "12 oRDER \u2003tOTAL") = true ∧
      followsConvention "Order\u2003Total" = true ∧
      Unfixed .builtIn "Order\u2003Total".toList ∧
      (suggest .builtIn "Order\u2003Total").toList = "Order\u2003Total".toList.map spaced := by
  have letters : Alphabetic (stripLeadingDigits "12 oRDER \u2003tOTAL").toList :=
    alphabetic_iff.2 (by decide +kernel)
  have unfixed : Unfixed .builtIn (stripLeadingDigits "12 oRDER \u2003tOTAL").toList := by
    unfold Unfixed
    decide +kernel
  have unfixed' : Unfixed .builtIn "Order\u2003Total".toList := by
    unfold Unfixed
    decide +kernel
  have conventional : followsConvention "Order\u2003Total" = true := by decide +kernel
  obtain ⟨-, suggested, kept⟩ := convention_and_suggestion .builtIn
  exact ⟨letters, unfixed, (suggested _ letters unfixed).1, conventional, unfixed',
    kept _ conventional unfixed'⟩

end WorkflowLint.Naming
