import WorkflowLint.Proofs.Naming.Convention
import WorkflowLint.Proofs.Text.Case

/-!
# Names that are their own suggestion

A suggestion is the join of its words, one for each word of the name behind its leading digits
(`words_suggest`). So a name is its own suggestion exactly if it does not start with a digit, is the
join of its words and each of them keeps its spelling (`suggest_eq_self_iff`). A suggestion need not
be its own suggestion: a word that was spelled once keeps that spelling only if it is `Steady`.
-/

set_option autoImplicit false

namespace WorkflowLint

namespace Config

variable {config : Config} {a b word exception : String}

theorem sameWord_iff : sameWord a b = true ↔ a.toList.map Char.toLower = b.toList.map Char.toLower :=
  beq_iff_eq

theorem namingException?_congr (h : sameWord a b = true) :
    config.namingException? a = config.namingException? b := by
  have same : (fun exception => sameWord exception a) = fun exception => sameWord exception b := by
    funext exception
    rw [Bool.eq_iff_iff, sameWord_iff, sameWord_iff, sameWord_iff.1 h]
  rw [namingException?, same, namingException?]

theorem sameWord_of_namingException? (h : config.namingException? word = some exception) :
    sameWord exception word = true := by
  have same := List.find?_some h
  exact same

/-- A fixed word has its own spelling. -/
theorem namingException?_idem (h : config.namingException? word = some exception) :
    config.namingException? exception = some exception := by
  rw [namingException?_congr (sameWord_of_namingException? h), h]

end Config

namespace Naming

open Text (IsWord isBlank words upper lower)

variable {config : Config}

/-- The suggested spelling of a word by its characters. -/
def spell (config : Config) (word : List Char) : List Char := (suggestWord config word).toList

theorem spell_of_namingException? {word : List Char} {exception : String}
    (h : config.namingException? (String.ofList word) = some exception) :
    spell config word = exception.toList := by
  rw [spell, suggestWord, h]

theorem spell_of_none {word : List Char}
    (h : config.namingException? (String.ofList word) = none) :
    spell config word = capitalize word := by
  rw [spell, suggestWord, h]
  exact String.toList_ofList

theorem toList_suggest (config : Config) (name : String) :
    (suggest config name).toList =
      [' '].intercalate ((words (stripLeadingDigits name).toList).map (spell config)) := by
  rw [suggest, String.toList_intercalate, List.map_map]
  rfl

/-! ### Words keep being words -/

theorem isWord_capitalize {word : List Char} (h : IsWord word) : IsWord (capitalize word) := by
  obtain ⟨nonempty, free⟩ := h
  cases word with
  | nil => exact absurd rfl nonempty
  | cons c rest =>
    obtain ⟨here, others⟩ := List.forall_mem_cons.1 free
    refine ⟨fun none => Text.upper_ne_nil c (List.append_eq_nil_iff.1 none).1, fun d hd => ?_⟩
    rw [← Bool.not_eq_true]
    intro blank
    rcases List.mem_append.1 hd with hd | hd
    · rw [Text.isBlank_of_mem_upper hd blank] at here
      cases here
    · obtain ⟨e, he, hd⟩ := List.mem_flatMap.1 hd
      have := others e he
      rw [Text.isBlank_of_mem_lower hd blank] at this
      cases this

theorem isWord_of_sameWord {a b : String} (same : Config.sameWord a b = true)
    (h : IsWord b.toList) : IsWord a.toList := by
  have lowered := Config.sameWord_iff.1 same
  refine ⟨fun none => h.1 ?_, fun c hc => ?_⟩
  · rw [none] at lowered
    exact List.map_eq_nil_iff.1 lowered.symm
  · have image : c.toLower ∈ b.toList.map Char.toLower := lowered ▸ List.mem_map_of_mem hc
    obtain ⟨d, hd, e⟩ := List.mem_map.1 image
    rw [← Text.isBlank_toLower, ← e, Text.isBlank_toLower, h.2 d hd]

theorem isWord_spell {word : List Char} (h : IsWord word) : IsWord (spell config word) := by
  cases found : config.namingException? (String.ofList word) with
  | none => exact spell_of_none found ▸ isWord_capitalize h
  | some exception =>
    rw [spell_of_namingException? found]
    refine isWord_of_sameWord (Config.sameWord_of_namingException? found) ?_
    rwa [String.toList_ofList]

/-- The words of a suggestion are the words of the name, each in its suggested spelling. -/
theorem words_suggest (config : Config) (name : String) :
    words (suggest config name).toList =
      (words (stripLeadingDigits name).toList).map (spell config) := by
  rw [toList_suggest, Text.words_intercalate]
  intro w hw
  obtain ⟨word, mem, rfl⟩ := List.mem_map.1 hw
  exact isWord_spell (Text.isWord_of_mem_words mem)

/-! ### Digits in front -/

/-- The spelling of a word begins with a digit only if the word does. -/
theorem isDigit_of_head?_spell {word : List Char} {d : Char} (hd : d ∈ (spell config word).head?)
    (digit : d.isDigit = true) : ∃ c ∈ word.head?, c.isDigit = true := by
  cases found : config.namingException? (String.ofList word) with
  | none =>
    rw [spell_of_none found] at hd
    cases word with
    | nil => cases hd
    | cons c rest =>
      have first : (capitalize (c :: rest)).head? = (upper c).head? := by
        rw [capitalize, List.head?_append]
        cases h : upper c with
        | nil => exact absurd h (Text.upper_ne_nil c)
        | cons => rfl
      exact ⟨c, rfl, Text.isDigit_of_head?_upper (first ▸ hd) digit⟩
  | some exception =>
    rw [spell_of_namingException? found] at hd
    have lowered := Config.sameWord_iff.1 (Config.sameWord_of_namingException? found)
    have first : word.head?.map Char.toLower = some d.toLower := by
      rw [← List.head?_map, ← String.toList_ofList (l := word), ← lowered, List.head?_map, hd]
      rfl
    obtain ⟨c, hc, same⟩ := Option.map_eq_some_iff.1 first
    exact ⟨c, hc, by rw [← Text.isDigit_toLower, same, Text.isDigit_toLower, digit]⟩

/-- The name begins with an ASCII digit. -/
def StartsWithDigit (name : String) : Prop := ∃ c ∈ name.toList.head?, c.isDigit = true

theorem stripLeadingDigits_eq_self {name : String} (h : ¬StartsWithDigit name) :
    stripLeadingDigits name = name := by
  have kept : name.toList.dropWhile Char.isDigit = name.toList := by
    cases e : name.toList with
    | nil => rfl
    | cons c rest =>
      refine List.dropWhile_cons_of_neg fun digit => h ⟨c, ?_, digit⟩
      rw [e]
      rfl
  rw [stripLeadingDigits, kept, String.ofList_toList]

theorem isBlank_of_isDigit {c : Char} (digit : c.isDigit = true) : isBlank c = false := by
  rw [Char.isDigit_iff_toNat] at digit
  have first : '0'.toNat = 48 := rfl
  have last : '9'.toNat = 57 := rfl
  simp only [isBlank, Bool.or_eq_false_iff, Bool.and_eq_false_iff, decide_eq_false_iff_not,
    beq_eq_false_iff_ne]
  omega

/-- Digits in front of a text begin its first word. Without them that word is gone, or begins with
another character than a digit. -/
theorem words_of_isDigit {text : List Char} {d : Char} (hd : d ∈ text.head?)
    (digit : d.isDigit = true) :
    ∃ first w rest, words text = first :: rest ∧ d ∈ first.head? ∧
      words (text.dropWhile Char.isDigit) = (if w = [] then [] else [w]) ++ rest ∧
      ∀ c ∈ w.head?, c.isDigit = false := by
  obtain ⟨digits, parted, allDigits, stops⟩ := Text.exists_eq_append Char.isDigit text
  obtain ⟨w, behind, parted', free, ends⟩ := Text.exists_words_eq (text.dropWhile Char.isDigit)
  have some : d ∈ digits.head? := by
    cases digits with
    | nil =>
      rw [List.nil_append] at parted
      rw [parted] at hd
      rw [stops d hd] at digit
      cases digit
    | cons e rest =>
      rw [parted] at hd
      exact hd
  have begins : d ∈ (digits ++ w).head? := by
    rw [List.head?_append, some]
    rfl
  have nonempty : digits ++ w ≠ [] := fun none => by
    rw [none] at begins
    cases begins
  have free' : ∀ c ∈ digits ++ w, isBlank c = false := fun c hc =>
    (List.mem_append.1 hc).elim (fun h => isBlank_of_isDigit (allDigits c h)) (free c)
  refine ⟨digits ++ w, w, words behind, ?_, begins, ?_, fun c hc => stops c ?_⟩
  · rw [parted, parted', ← List.append_assoc, Text.words_append_of_blank free' ends,
      if_neg nonempty, List.singleton_append]
  · rw [parted', Text.words_append_of_blank free ends]
  · rw [parted', List.head?_append, hc]
    rfl

/-- So the words of a text with a digit in front are not the spelled words of what is left of it. -/
theorem words_ne_map_spell {text : List Char} {d : Char} (hd : d ∈ text.head?)
    (digit : d.isDigit = true) :
    words text ≠ (words (text.dropWhile Char.isDigit)).map (spell config) := by
  obtain ⟨first, w, rest, cut, begins, left, stops⟩ := words_of_isDigit hd digit
  rw [cut, left]
  intro same
  by_cases empty : w = []
  · have count := congrArg List.length same
    simp [empty] at count
  · rw [if_neg empty] at same
    rw [(List.cons.inj same).1] at begins
    obtain ⟨c, hc, digit'⟩ := isDigit_of_head?_spell begins digit
    rw [stops c hc] at digit'
    cases digit'

theorem suggest_eq_self_iff {name : String} :
    suggest config name = name ↔ ¬StartsWithDigit name ∧
      [' '].intercalate (words name.toList) = name.toList ∧
      ∀ w ∈ words name.toList, spell config w = w := by
  have kept_iff : (words name.toList).map (spell config) = words name.toList ↔
      ∀ w ∈ words name.toList, spell config w = w := by
    have same := List.map_inj_left (l := words name.toList) (f := spell config) (g := id)
    rwa [List.map_id] at same
  constructor
  · intro own
    have cut : words name.toList = (words (stripLeadingDigits name).toList).map (spell config) := by
      rw [← words_suggest, own]
    have start : ¬StartsWithDigit name := by
      rintro ⟨d, hd, digit⟩
      rw [stripLeadingDigits, String.toList_ofList] at cut
      exact words_ne_map_spell hd digit cut
    have joined := toList_suggest config name
    rw [stripLeadingDigits_eq_self start] at cut joined
    rw [own, ← cut] at joined
    exact ⟨start, joined.symm, kept_iff.1 cut.symm⟩
  · rintro ⟨start, joined, kept⟩
    rw [← String.toList_inj, toList_suggest, stripLeadingDigits_eq_self start, kept_iff.2 kept,
      joined]

/-! ### Spelling twice -/

/-- A word keeps the spelling it is given: it has a fixed one, or it is not a fixed word in another
spelling once it is capitalised, and what its first character has behind the first one of its upper
case is in lower case. -/
def Steady (config : Config) (word : List Char) : Prop :=
  config.namingException? (String.ofList word) = none →
    (∀ exception, config.namingException? (String.ofList (capitalize word)) = some exception →
      exception.toList = capitalize word) ∧
    (config.namingException? (String.ofList (capitalize word)) = none →
      ∀ c ∈ word.head?, (upper c).tail.flatMap lower = (upper c).tail)

theorem flatMap_lower_flatMap (cs : List Char) :
    (cs.flatMap lower).flatMap lower = cs.flatMap lower := by
  simp only [List.flatMap_assoc, Text.flatMap_lower_lower]

theorem capitalize_capitalize_iff (word : List Char) :
    capitalize (capitalize word) = capitalize word ↔
      ∀ c ∈ word.head?, (upper c).tail.flatMap lower = (upper c).tail := by
  cases word with
  | nil => exact iff_of_true rfl (by simp)
  | cons c rest =>
    cases h : upper c with
    | nil => exact absurd h (Text.upper_ne_nil c)
    | cons d ds =>
      have again : upper d = [d] := Text.upper_head_upper (c := c) (by rw [h]; rfl)
      have spelled : capitalize (c :: rest) = d :: (ds ++ rest.flatMap lower) := by
        rw [capitalize, h, List.cons_append]
      rw [spelled, capitalize, again, List.singleton_append, List.flatMap_append,
        flatMap_lower_flatMap]
      simp [h]

theorem spell_spell_iff (word : List Char) :
    spell config (spell config word) = spell config word ↔ Steady config word := by
  unfold Steady
  cases found : config.namingException? (String.ofList word) with
  | some exception =>
    have again := Config.namingException?_idem found
    rw [← String.ofList_toList (s := exception)] at again
    rw [spell_of_namingException? found, spell_of_namingException? again]
    simp
  | none =>
    rw [spell_of_none found]
    cases found' : config.namingException? (String.ofList (capitalize word)) with
    | some exception => rw [spell_of_namingException? found']; simp
    | none => rw [spell_of_none found', capitalize_capitalize_iff]; simp

/-- A suggestion is its own suggestion if it starts with no digit and its words keep their spelling. -/
theorem suggest_suggest_iff {name : String} :
    suggest config (suggest config name) = suggest config name ↔
      ¬StartsWithDigit (suggest config name) ∧
        ∀ word ∈ words (stripLeadingDigits name).toList, Steady config word := by
  have joined : [' '].intercalate (words (suggest config name).toList) =
      (suggest config name).toList := by
    rw [words_suggest, toList_suggest]
  rw [suggest_eq_self_iff, words_suggest, List.forall_mem_map]
  simp only [spell_spell_iff]
  exact and_congr_right fun _ => and_iff_right (words_suggest config name ▸ joined)

/-! ### Names that pass -/

theorem not_startsWithDigit_of_conventional {name : String} (conventional : Conventional name.toList) :
    ¬StartsWithDigit name := by
  rintro ⟨d, hd, digit⟩
  obtain ⟨rest, e⟩ := List.head?_eq_some_iff.1 hd
  rw [e, conventional_cons_iff, isUpper_iff_toNat] at conventional
  rw [Char.isDigit_iff_toNat] at digit
  have last : '9'.toNat = 57 := rfl
  omega

/-- No name that starts with a digit passes, whatever its characters. -/
theorem not_passes_of_startsWithDigit {config : Config} {name : String}
    (h : StartsWithDigit name) : ¬(followsConvention name = true ∨ suggest config name = name) := by
  rw [followsConvention_iff, suggest_eq_self_iff]
  rintro (conventional | ⟨start, -⟩)
  · exact not_startsWithDigit_of_conventional conventional h
  · exact start h

/-! ### Following a suggestion -/

/-- The advice on a name is final: what is suggested is conventional, or starts with another character
than a digit and is put together from words that keep the spelling they are given. -/
def FinalAdvice (config : Config) (name : String) : Prop :=
  Conventional (suggest config name).toList ∨
    (∃ c ∈ (suggest config name).toList.head?, c.isDigit = false) ∧
      ∀ word ∈ words (stripLeadingDigits name).toList, Steady config word

theorem finalAdvice_iff (config : Config) (name : String) :
    FinalAdvice config name ↔ suggest config name ≠ "" ∧
      (followsConvention (suggest config name) = true ∨
        suggest config (suggest config name) = suggest config name) := by
  rw [followsConvention_iff, suggest_suggest_iff, FinalAdvice, StartsWithDigit, Ne,
    ← String.toList_eq_nil_iff]
  cases (suggest config name).toList with
  | nil => simp [not_conventional_nil]
  | cons c rest => simp

end Naming

end WorkflowLint
