import Mathlib.Data.List.Induction
import Mathlib.Tactic.IntervalCases
import WorkflowLint.Proofs.Json.Literals

/-!
# Reading scalars

A numeral without fraction and exponent says an integer if that has 64 bits, and then there is one way
only to write it (`Numeral.toDigits_ofDigitChars`). With this and the readers of literals, the reader
of scalars takes a scalar from a text exactly if one is spelled there (`exists_of_scalar`,
`scalar_of_spells`).
-/

set_option autoImplicit false

namespace WorkflowLint.Json

/-! ### Integers -/

namespace Numeral

theorem digitValue_lt {c : Char} (h : c.isDigit) : c.toNat - '0'.toNat < 10 := by
  have high := (Char.isDigit_iff_toNat.1 h).2
  have apart : '9'.toNat = '0'.toNat + 9 := rfl
  omega

theorem toDigits_digitValue {c : Char} (h : c.isDigit) :
    Nat.toDigits 10 (c.toNat - '0'.toNat) = [c] := by
  have low := (Char.isDigit_iff_toNat.1 h).1
  have zero : '0'.toNat = 48 := rfl
  rw [Nat.toDigits_of_lt_base (digitValue_lt h), List.singleton_inj, ← Char.toNat_inj,
    Nat.toNat_digitChar_of_lt_ten (digitValue_lt h)]
  omega

/-- A run of digits without a leading zero is how its number is written. -/
theorem toDigits_ofDigitChars {ds : List Char} (h : Whole ds) :
    Nat.toDigits 10 (Nat.ofDigitChars 10 ds 0) = ds := by
  induction ds using List.reverseRecOn with
  | nil => exact absurd rfl h.1.1
  | append_singleton front c ih =>
    obtain ⟨⟨-, digits⟩, alone⟩ := h
    have last := digits c (List.mem_append_right _ List.mem_cons_self)
    rw [Nat.ofDigitChars_append, Nat.ofDigitChars_cons, Nat.ofDigitChars_nil]
    cases front with
    | nil => simpa using toDigits_digitValue last
    | cons d front =>
      have leading : d ≠ '0' := by
        rintro rfl
        simpa using alone rfl
      have shorter := ih ⟨⟨List.cons_ne_nil d front,
        fun e he => digits e (List.mem_append_left _ he)⟩, fun zero => absurd (Option.some.inj zero) leading⟩
      have positive : 0 < Nat.ofDigitChars 10 (d :: front) 0 := by
        refine Nat.pos_of_ne_zero fun zero => ?_
        rw [zero, Nat.toDigits_zero] at shorter
        exact leading (List.cons.inj shorter).1.symm
      rw [← Nat.toDigits_append_toDigits (by decide) positive (digitValue_lt last), shorter,
        toDigits_digitValue last]

theorem isDigit_of_mem_toDigits {n : Nat} : ∀ c ∈ Nat.toDigits 10 n, c.isDigit := by
  intro c hc
  exact Nat.isDigit_of_mem_toDigits (by decide) (by decide) hc

/-- A positive number is written without a leading zero. -/
theorem head?_toDigits {n : Nat} (h : 0 < n) : (Nat.toDigits 10 n).head? ≠ some '0' := by
  induction n using Nat.strongRecOn with
  | ind n ih =>
    rw [Nat.toDigits_eq_if (by decide)]
    split
    · next small =>
      interval_cases n <;> decide
    · next large =>
      have shorter := ih (n / 10) (by omega) (by omega)
      rw [List.head?_append]
      cases digits : Nat.toDigits 10 (n / 10) with
      | nil => exact absurd digits Nat.toDigits_ne_nil
      | cons c tail =>
        rw [digits] at shorter
        exact shorter

theorem whole_toDigits (n : Nat) : Whole (Nat.toDigits 10 n) := by
  refine ⟨⟨Nat.toDigits_ne_nil, isDigit_of_mem_toDigits⟩, fun zero => ?_⟩
  rcases Nat.eq_zero_or_pos n with rfl | positive
  · rfl
  · exact absurd zero (head?_toDigits positive)

/-- An integer has neither fraction nor exponent. -/
theorem spells_toDigits (negative : Bool) (n : Nat) :
    Spells ⟨negative, Nat.toDigits 10 n, [], none⟩ (Nat.toDigits 10 n) :=
  ⟨whole_toDigits n, [], [], .none, .none, by simp⟩

theorem le_ofDigitChars (ds : List Char) (n : Nat) : n ≤ Nat.ofDigitChars 10 ds n := by
  induction ds generalizing n with
  | nil => exact Nat.le_refl n
  | cons c ds ih =>
    rw [Nat.ofDigitChars_cons]
    exact Nat.le_trans (by omega) (ih _)

/-- Digits are gathered to the end exactly if they stay within the limit. -/
theorem gather_eq_nil {limit n m : Nat} {ds : List Char} (fits : n ≤ limit) :
    gather limit n ds = (m, []) ↔ m = Nat.ofDigitChars 10 ds n ∧ m ≤ limit := by
  induction ds generalizing n with
  | nil =>
    rw [gather, Nat.ofDigitChars_nil, Prod.mk.injEq, eq_comm]
    exact ⟨fun h => ⟨h.1, h.1 ▸ fits⟩, fun h => ⟨h.1, rfl⟩⟩
  | cons c ds ih =>
    rw [gather, Nat.ofDigitChars_cons]
    split
    · next beyond =>
      have reached := le_ofDigitChars ds (10 * n + (c.toNat - '0'.toNat))
      simp only [Prod.mk.injEq, reduceCtorEq, and_false, false_iff]
      omega
    · next within => exact ih (Nat.le_of_not_lt within)

theorem le_maxSignificand_iff {n : Nat} : n ≤ maxSignificand ↔ n < Nat.pow 2 64 :=
  (Nat.lt_iff_le_pred (by decide)).symm

/-- The numerals that say integers. -/
theorem exists_of_value_eq_int {n : Numeral} {k : Int} (h : n.value = .ok (.int k)) :
    n.fraction = [] ∧ n.exponent = none ∧
      ∃ m ≤ maxSignificand, m = Nat.ofDigitChars 10 n.whole 0 ∧ integer n.negative m = .int k := by
  unfold value at h
  split at h
  next m left gathered =>
  split at h
  · next bare =>
    obtain ⟨fraction, exponent, ended⟩ := bare
    obtain rfl := List.isEmpty_iff.1 ended
    obtain ⟨rfl, fits⟩ := (gather_eq_nil (Nat.zero_le _)).1 gathered
    exact ⟨List.isEmpty_iff.1 fraction, Option.isNone_iff_eq_none.1 exponent, _, fits, rfl,
      Except.ok.inj h⟩
  · -- every other number is a double
    exfalso
    dsimp only at h
    split at h
    · split at h <;> cases h
    · split at h <;> split at h <;> cases h

theorem value_toDigits (negative : Bool) {n : Nat} (h : n ≤ maxSignificand) :
    value ⟨negative, Nat.toDigits 10 n, [], none⟩ = .ok (integer negative n) := by
  have gathered : gather maxSignificand 0 (Nat.toDigits 10 n) = (n, []) :=
    (gather_eq_nil (Nat.zero_le _)).2 ⟨Nat.ofDigitChars_ten_toDigits.symm, h⟩
  unfold value
  dsimp only
  rw [gathered]
  rfl

theorem Fraction.eq_nil {text : List Char} (h : Fraction [] text) : text = [] := by
  cases h with
  | none => rfl
  | some digits => exact absurd rfl digits.1

theorem Exponent.eq_nil {text : List Char} (h : Exponent Option.none text) : text = [] := by
  cases h
  rfl

/-- A numeral that says an integer is spelled in one way only. -/
theorem scalar_of_value_eq_int {n : Numeral} {k : Int} {text : List Char}
    (value : n.value = .ok (.int k)) (spells : n.Spells text) :
    Scalar (.num (.int k)) (if n.negative then '-' :: text else text) := by
  obtain ⟨negative, whole, fraction, exponent⟩ := n
  obtain ⟨rfl, rfl, m, fits, rfl, integral⟩ := exists_of_value_eq_int value
  obtain ⟨run, f, e, behind, scaled, rfl⟩ := spells
  dsimp only at run behind scaled integral fits ⊢
  obtain rfl := behind.eq_nil
  obtain rfl := scaled.eq_nil
  have text : whole ++ ([] ++ []) = Nat.toDigits 10 (Nat.ofDigitChars 10 whole 0) := by
    rw [toDigits_ofDigitChars run]
    simp
  rw [text]
  cases negative with
  | false =>
    obtain rfl := Number.int.inj integral
    exact .count (le_maxSignificand_iff.1 fits)
  | true =>
    rw [integer, if_pos rfl] at integral
    split at integral
    · next inside =>
      obtain rfl := Number.int.inj integral
      exact .negative inside.1 inside.2
    · cases integral

/-- The number read is spelled at the start of the text, behind its minus if it has one. -/
theorem exists_of_read {negative : Bool} {x : Number} {cs rest : List Char}
    (h : read negative cs = .ok (x, rest)) :
    ∃ text, Scalar (.num x) (if negative then '-' :: text else text) ∧ cs = text ++ rest := by
  simp only [read, bind_eq_ok, Prod.exists] at h
  obtain ⟨n, rest', scanned, h⟩ := h
  obtain ⟨rfl, text, spells, rfl⟩ := exists_of_scan scanned
  split at h
  · next x' value =>
    obtain ⟨rfl, rfl⟩ := Prod.mk.inj (Except.ok.inj h)
    refine ⟨text, ?_, rfl⟩
    cases x' with
    | int k => exact scalar_of_value_eq_int value spells
    | float x => exact .double spells value
  · cases h

theorem read_of_spells {n : Numeral} {x : Number} {text rest : List Char} (spells : n.Spells text)
    (value : n.value = .ok x) (ends : NumeralEnds rest) :
    read n.negative (text ++ rest) = .ok (x, rest) := by
  simp only [read, scan_of_spells spells ends, bind, Except.bind, value]
  rfl

theorem Spells.exists_cons {n : Numeral} {text : List Char} (h : n.Spells text) :
    ∃ c rest, text = c :: rest ∧ c.isDigit := by
  obtain ⟨⟨⟨some, digits⟩, -⟩, f, e, -, -, rfl⟩ := h
  obtain ⟨c, ds, whole⟩ := List.exists_cons_of_ne_nil some
  exact ⟨c, ds ++ (f ++ e), by rw [whole]; rfl, digits c (whole ▸ List.mem_cons_self)⟩

end Numeral

/-! ### Scalars -/

namespace Reader

theorem word_eq_ok {letters cs rest : List Char} :
    word letters cs = .ok rest ↔ cs = letters ++ rest := by
  induction letters generalizing cs with
  | nil => simp [word]
  | cons letter letters ih =>
    cases cs with
    | nil => simp [word]
    | cons c cs =>
      rw [word]
      split
      · next same => rw [ih, same, List.cons_append, List.cons.injEq, eq_self, true_and]
      · next other => simp [other]

theorem ne_of_isDigit {c d : Char} (hc : c.isDigit) (hd : d.isDigit = false) : c ≠ d := by
  rintro rfl
  rw [hd] at hc
  cases hc

theorem scalar_digit (steps : Nat) {c : Char} (digit : c.isDigit) (rest : List Char) :
    scalar steps (c :: rest) =
      (Numeral.read false (c :: rest)).map fun (n, rest) => (.num n, rest) := by
  have other {d : Char} (h : d.isDigit = false) : c ≠ d := ne_of_isDigit digit h
  rw [scalar, if_neg (other (by decide)), if_neg (other (by decide)), if_neg (other (by decide)),
    if_neg (other (by decide)), if_neg (other (by decide)), if_pos digit]

/-- The scalar read is spelled at the start of the text. -/
theorem exists_of_scalar {steps : Nat} {v : Json} {cs rest : List Char}
    (h : scalar steps cs = .ok (v, rest)) : ∃ text, Scalar v text ∧ cs = text ++ rest := by
  cases cs with
  | nil => cases h
  | cons c cs =>
    -- one case for each kind of scalar, told by its first character
    rw [scalar] at h
    split at h
    · next first =>
      obtain ⟨rest, read, e⟩ := map_eq_ok.1 h
      obtain ⟨rfl, rfl⟩ := Prod.mk.inj e
      exact ⟨_, .null, by rw [first, word_eq_ok.1 read]; rfl⟩
    split at h
    · next first =>
      obtain ⟨rest, read, e⟩ := map_eq_ok.1 h
      obtain ⟨rfl, rfl⟩ := Prod.mk.inj e
      exact ⟨_, .yes, by rw [first, word_eq_ok.1 read]; rfl⟩
    split at h
    · next first =>
      obtain ⟨rest, read, e⟩ := map_eq_ok.1 h
      obtain ⟨rfl, rfl⟩ := Prod.mk.inj e
      exact ⟨_, .no, by rw [first, word_eq_ok.1 read]; rfl⟩
    split at h
    · next first =>
      obtain ⟨⟨s, rest⟩, read, e⟩ := map_eq_ok.1 h
      obtain ⟨rfl, rfl⟩ := Prod.mk.inj e
      obtain ⟨text, chars, rfl⟩ := Literal.exists_of_read read
      exact ⟨_, .str chars, by simp [first]⟩
    split at h
    · next first =>
      obtain ⟨⟨x, rest⟩, read, e⟩ := map_eq_ok.1 h
      obtain ⟨rfl, rfl⟩ := Prod.mk.inj e
      obtain ⟨text, spells, rfl⟩ := Numeral.exists_of_read read
      exact ⟨_, spells, by rw [first]; rfl⟩
    split at h
    · obtain ⟨⟨x, rest⟩, read, e⟩ := map_eq_ok.1 h
      obtain ⟨rfl, rfl⟩ := Prod.mk.inj e
      exact Numeral.exists_of_read read
    · cases h

theorem scalar_of_read {steps : Nat} {n : Numeral} {x : Number} {text rest : List Char}
    (spells : n.Spells text) (value : n.value = .ok x) (ends : NumeralEnds rest) :
    scalar steps ((if n.negative then '-' :: text else text) ++ rest) = .ok (.num x, rest) := by
  have read := Numeral.read_of_spells spells value ends
  cases minus : n.negative with
  | true =>
    rw [minus] at read
    show (Numeral.read true (text ++ rest)).map _ = _
    rw [read]
    rfl
  | false =>
    rw [minus] at read
    obtain ⟨c, tail, rfl, digit⟩ := spells.exists_cons
    show scalar steps (c :: (tail ++ rest)) = _
    rw [scalar_digit steps digit]
    show (Numeral.read false (c :: tail ++ rest)).map _ = _
    rw [read]
    rfl

/-- All spellings of a scalar are read, up to where they end. -/
theorem scalar_of_spells {v : Json} {text rest : List Char} (spells : Scalar v text)
    (ends : NumeralEnds rest) {steps : Nat} (enough : text.length < steps) :
    scalar steps (text ++ rest) = .ok (v, rest) := by
  cases spells with
  | null => rfl
  | yes => rfl
  | no => rfl
  | @count n fits =>
    have value : Numeral.value ⟨false, Nat.toDigits 10 n, [], none⟩ = .ok (.int n) :=
      Numeral.value_toDigits false (Numeral.le_maxSignificand_iff.2 fits)
    exact scalar_of_read (Numeral.spells_toDigits false n) value ends
  | @negative n positive fits =>
    have small : n ≤ Numeral.maxSignificand := Nat.le_trans fits (by decide)
    have value : Numeral.value ⟨true, Nat.toDigits 10 n, [], none⟩ = .ok (.int (-n)) := by
      rw [Numeral.value_toDigits true small, Numeral.integer, if_pos rfl, if_pos ⟨positive, fits⟩]
    exact scalar_of_read (Numeral.spells_toDigits true n) value ends
  | double spells value => exact scalar_of_read spells value ends
  | @str s cs chars =>
    rw [List.length_cons, List.length_append] at enough
    rw [List.cons_append, List.append_assoc]
    show (Literal.read steps (cs ++ '"' :: rest)).map _ = _
    rw [Literal.read_of_spells chars rest (by omega)]
    rfl

end Reader

end WorkflowLint.Json
