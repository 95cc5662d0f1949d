import WorkflowLint.Proofs.Naming.Suggestion

/-!
# ASCII names

On ASCII characters the case mappings go letter by letter. So it shows in the letters of a word
whether it has its suggested spelling (`spell_eq_self_iff`), and every word keeps the spelling that it
is given (`steady_of_ascii`).
-/

set_option autoImplicit false

namespace WorkflowLint.Naming

open Text (IsWord Phrase words lower)

variable {config : Config}

/-- A word is spelled as suggested: like the first fixed word that differs at most in the case of
ASCII letters, or else without a small letter in front and without capitals behind it. -/
def Spelled (config : Config) (word : List Char) : Prop :=
  (∀ exception,
    (config.namingExceptions.find? fun e => Config.sameWord e (String.ofList word)) =
      some exception → word = exception.toList) ∧
  ((config.namingExceptions.find? fun e => Config.sameWord e (String.ofList word)) = none →
    (∀ c ∈ word.head?, ¬('a' ≤ c ∧ c ≤ 'z')) ∧ ∀ c ∈ word.tail, ¬('A' ≤ c ∧ c ≤ 'Z'))

/-- The name starts with no digit and consists of words spelled as suggested, with one space between
two of them. -/
def WellSpelled (config : Config) (name : String) : Prop :=
  ¬StartsWithDigit name ∧
    Phrase (· = ' ') (fun word => IsWord word ∧ Spelled config word) name.toList

def IsAscii (text : List Char) : Prop := ∀ c ∈ text, c.toNat < 128

theorem flatMap_lower_of_ascii {cs : List Char} (ascii : IsAscii cs) :
    cs.flatMap lower = cs.map Char.toLower := by
  induction cs with
  | nil => rfl
  | cons c rest ih =>
    obtain ⟨here, others⟩ := List.forall_mem_cons.1 ascii
    rw [List.flatMap_cons, Text.lower_of_ascii here, ih others, List.map_cons, List.singleton_append]

theorem capitalize_of_ascii {c : Char} {rest : List Char} (ascii : IsAscii (c :: rest)) :
    capitalize (c :: rest) = c.toUpper :: rest.map Char.toLower := by
  obtain ⟨here, others⟩ := List.forall_mem_cons.1 ascii
  rw [capitalize, Text.upper_of_ascii here, flatMap_lower_of_ascii others, List.singleton_append]

theorem toUpper_eq_self_iff {c : Char} : c.toUpper = c ↔ ¬('a' ≤ c ∧ c ≤ 'z') := by
  rw [Text.toUpper_eq_self_iff, ← isLower_iff, isLower_iff_toNat]

theorem toLower_eq_self_iff {c : Char} : c.toLower = c ↔ ¬('A' ≤ c ∧ c ≤ 'Z') := by
  rw [Text.toLower_eq_self_iff, ← isUpper_iff, isUpper_iff_toNat]

theorem capitalize_eq_self_iff {word : List Char} (ascii : IsAscii word) :
    capitalize word = word ↔
      (∀ c ∈ word.head?, ¬('a' ≤ c ∧ c ≤ 'z')) ∧ ∀ c ∈ word.tail, ¬('A' ≤ c ∧ c ≤ 'Z') := by
  cases word with
  | nil => exact iff_of_true rfl (by simp)
  | cons c rest =>
    have letters : rest.map Char.toLower = rest ↔ ∀ d ∈ rest, d.toLower = d := by
      have same := List.map_inj_left (l := rest) (f := Char.toLower) (g := id)
      rwa [List.map_id] at same
    rw [capitalize_of_ascii ascii, List.cons.injEq, letters]
    simp only [toUpper_eq_self_iff, toLower_eq_self_iff, List.head?_cons, List.tail_cons,
      Option.mem_some_iff, forall_eq']

theorem spell_eq_self_iff {word : List Char} (ascii : IsAscii word) :
    spell config word = word ↔ Spelled config word := by
  rw [Spelled, ← Config.namingException?]
  cases found : config.namingException? (String.ofList word) with
  | some exception =>
    rw [spell_of_namingException? found]
    simp [eq_comm]
  | none =>
    rw [spell_of_none found, capitalize_eq_self_iff ascii]
    simp

theorem isAscii_of_mem_words {text word : List Char} (ascii : IsAscii text) (h : word ∈ words text) :
    IsAscii word := fun c hc => ascii c (Text.mem_of_mem_words h hc)

theorem suggest_eq_self_iff_of_ascii {name : String} (nonempty : name ≠ "")
    (ascii : IsAscii name.toList) : suggest config name = name ↔ WellSpelled config name := by
  have spelled : (∀ w ∈ words name.toList, spell config w = w) ↔
      ∀ w ∈ words name.toList, Spelled config w :=
    forall₂_congr fun w hw => spell_eq_self_iff (isAscii_of_mem_words ascii hw)
  have some : name.toList ≠ [] := fun none => nonempty (String.toList_eq_nil_iff.1 none)
  rw [suggest_eq_self_iff, WellSpelled, Text.phrase_iff, spelled, and_iff_right some]

/-- A name passes without a warning if it is conventional or its own suggestion. -/
theorem passes_iff_of_ascii {config : Config} {name : String} (nonempty : name ≠ "")
    (ascii : IsAscii name.toList) :
    (followsConvention name = true ∨ suggest config name = name) ↔
      Conventional name.toList ∨ WellSpelled config name := by
  rw [followsConvention_iff, suggest_eq_self_iff_of_ascii nonempty ascii]

/-! ### Spelling twice -/

theorem sameWord_capitalize {word : List Char} (ascii : IsAscii word) :
    Config.sameWord (String.ofList (capitalize word)) (String.ofList word) = true := by
  rw [Config.sameWord_iff, String.toList_ofList, String.toList_ofList]
  cases word with
  | nil => rfl
  | cons c rest =>
    rw [capitalize_of_ascii ascii, List.map_cons, List.map_map, Text.toLower_toUpper]
    simp only [Function.comp_def, Text.toLower_toLower, List.map_cons]

theorem steady_of_ascii {word : List Char} (ascii : IsAscii word) : Steady config word := by
  intro unfixed
  rw [Config.namingException?_congr (sameWord_capitalize ascii), unfixed]
  refine ⟨nofun, fun _ c hc => ?_⟩
  rw [Text.upper_of_ascii (ascii c (List.mem_of_mem_head? hc))]
  rfl

/-- For an ASCII name the advice is final unless it is empty or starts with a digit. -/
theorem finalAdvice_iff_of_ascii {name : String} (ascii : IsAscii name.toList) :
    FinalAdvice config name ↔ ∃ c ∈ (suggest config name).toList.head?, c.isDigit = false := by
  have steady : ∀ word ∈ words (stripLeadingDigits name).toList, Steady config word := by
    refine fun word mem => steady_of_ascii (isAscii_of_mem_words ?_ mem)
    rw [stripLeadingDigits, String.toList_ofList]
    exact fun c hc => ascii c ((List.dropWhile_sublist _).mem hc)
  rw [FinalAdvice, and_iff_left steady]
  refine or_iff_right_of_imp fun conventional => ?_
  have start := not_startsWithDigit_of_conventional conventional
  cases h : (suggest config name).toList with
  | nil => exact absurd (h ▸ conventional) not_conventional_nil
  | cons c rest =>
    refine ⟨c, rfl, Bool.eq_false_iff.2 fun digit => start ⟨c, ?_, digit⟩⟩
    rw [h]
    rfl

end WorkflowLint.Naming
