import WorkflowLint.Naming
import WorkflowLint.Proofs.Text.Words

/-!
# The convention as a grammar

A name follows the convention if it is a phrase of capitalised words (`followsConvention_iff`). The
grammar takes words as a whole, the scan `continues` goes on by one character; between the two
stands `Continues`, which says character by character what the grammar allows behind a capital.
-/

set_option autoImplicit false

namespace WorkflowLint.Naming

open Text (Phrase isBlank)

/-- An ASCII capital and small ASCII letters behind it. -/
def Capitalised (w : List Char) : Prop :=
  ∃ c rest, w = c :: rest ∧ ('A' ≤ c ∧ c ≤ 'Z') ∧ ∀ d ∈ rest, 'a' ≤ d ∧ d ≤ 'z'

/-- Capitalised words with one blank between two of them. -/
def Conventional (name : List Char) : Prop := Phrase (fun b => isBlank b = true) Capitalised name

/-- Behind a capital: small letters, and a whole name behind a blank. -/
inductive Continues : List Char → Prop
  | nil : Continues []
  | letter {d : Char} {rest : List Char} (hd : isLower d = true) (h : Continues rest) :
      Continues (d :: rest)
  | blank {b : Char} {rest : List Char} (hb : isBlank b = true) (h : Conventional rest) :
      Continues (b :: rest)

/-! ### Letters -/

theorem isUpper_iff {c : Char} : isUpper c = true ↔ 'A' ≤ c ∧ c ≤ 'Z' := by
  simp [isUpper]

theorem isLower_iff {c : Char} : isLower c = true ↔ 'a' ≤ c ∧ c ≤ 'z' := by
  simp [isLower]

theorem isUpper_iff_toNat {c : Char} : isUpper c = true ↔ 65 ≤ c.toNat ∧ c.toNat ≤ 90 := by
  simp only [isUpper_iff, Char.le_def, UInt32.le_iff_toNat_le]
  exact Iff.rfl

theorem isLower_iff_toNat {c : Char} : isLower c = true ↔ 97 ≤ c.toNat ∧ c.toNat ≤ 122 := by
  simp only [isLower_iff, Char.le_def, UInt32.le_iff_toNat_le]
  exact Iff.rfl

theorem isLower_of_isBlank {c : Char} (h : isBlank c = true) : isLower c = false := by
  rw [← Bool.not_eq_true, isLower_iff_toNat]
  simp only [isBlank, Bool.or_eq_true, Bool.and_eq_true, decide_eq_true_eq, beq_iff_eq] at h
  omega

theorem capitalised_cons_iff {c : Char} {rest : List Char} :
    Capitalised (c :: rest) ↔ isUpper c = true ∧ ∀ d ∈ rest, isLower d = true := by
  simp only [Capitalised, List.cons.injEq, isUpper_iff, isLower_iff]
  constructor
  · rintro ⟨_, _, ⟨rfl, rfl⟩, spelled⟩
    exact spelled
  · exact fun spelled => ⟨c, rest, ⟨rfl, rfl⟩, spelled⟩

theorem not_conventional_nil : ¬Conventional [] := by
  intro h
  generalize e : ([] : List Char) = name at h
  cases h with
  | last hw =>
    obtain ⟨c, rest, rfl, -⟩ := hw
    cases e
  | more => simp at e

/-! ### The scan -/

theorem Continues.append {w rest : List Char} (letters : ∀ d ∈ w, isLower d = true)
    (h : Continues rest) : Continues (w ++ rest) := by
  induction w with
  | nil => exact h
  | cons d w ih =>
    obtain ⟨here, others⟩ := List.forall_mem_cons.1 letters
    exact .letter here (ih others)

theorem Continues.conventional {c : Char} {rest : List Char} (h : Continues rest)
    (hc : isUpper c = true) : Conventional (c :: rest) := by
  have cut : ∀ {rest : List Char}, Continues rest → ∀ w, (∀ d ∈ w, isLower d = true) →
      Conventional (c :: w ++ rest) := by
    intro rest h
    induction h with
    | nil => exact fun w letters => .last (by simpa using capitalised_cons_iff.2 ⟨hc, letters⟩)
    | @letter d rest hd _ ih =>
      intro w letters
      have longer := ih (w ++ [d]) fun e he => by
        rcases List.mem_append.1 he with he | he
        · exact letters e he
        · rwa [List.mem_singleton.1 he]
      simpa using longer
    | blank hb h => exact fun w letters => .more (capitalised_cons_iff.2 ⟨hc, letters⟩) hb h
  exact cut h [] fun d hd => absurd hd List.not_mem_nil

theorem conventional_cons_iff {c : Char} {rest : List Char} :
    Conventional (c :: rest) ↔ isUpper c = true ∧ Continues rest := by
  refine ⟨fun h => ?_, fun h => h.2.conventional h.1⟩
  generalize e : c :: rest = name at h
  cases h with
  | last hw =>
    rw [← e, capitalised_cons_iff] at hw
    have letters := Continues.nil.append hw.2
    rw [List.append_nil] at letters
    exact ⟨hw.1, letters⟩
  | more hw hb behind =>
    obtain ⟨d, w, rfl, spelled⟩ := id hw
    obtain ⟨rfl, rfl⟩ := List.cons.inj e
    obtain ⟨capital, letters⟩ := capitalised_cons_iff.1 hw
    exact ⟨capital, (Continues.blank hb behind).append letters⟩

theorem continues_iff {rest : List Char} : continues rest = true ↔ Continues rest := by
  induction rest using continues.induct with
  | case1 => exact iff_of_true rfl .nil
  | case2 d =>
    refine ⟨fun h => .letter h .nil, fun h => ?_⟩
    cases h with
    | letter hd => exact hd
    | blank _ none => exact absurd none not_conventional_nil
  | case3 d e rest hd ih =>
    rw [continues, if_pos hd, ih]
    refine ⟨.letter hd, fun h => ?_⟩
    cases h with
    | letter _ h => exact h
    | blank hb => rw [isLower_of_isBlank hb] at hd; cases hd
  | case4 d e rest hd ih =>
    rw [continues, if_neg hd, Bool.and_eq_true, Bool.and_eq_true, ih, and_assoc,
      ← conventional_cons_iff]
    refine ⟨fun h => .blank h.1 h.2, fun h => ?_⟩
    cases h with
    | letter hd' => exact absurd hd' hd
    | blank hb h => exact ⟨hb, h⟩

/-- The convention is the grammar. -/
theorem followsConvention_iff (name : String) :
    followsConvention name = true ↔ Conventional name.toList := by
  unfold followsConvention
  cases name.toList with
  | nil => exact iff_of_false Bool.false_ne_true not_conventional_nil
  | cons c rest => rw [conventional_cons_iff, ← continues_iff]; exact Bool.and_eq_true _ _ ▸ Iff.rfl

end WorkflowLint.Naming
