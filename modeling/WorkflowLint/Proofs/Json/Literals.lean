import WorkflowLint.Proofs.Json.Grammar

/-!
# Reading literals

The reader takes a literal from a text if one is spelled there (`Literal.exists_of_read`,
`Numeral.exists_of_scan`), and it takes all that are: a string ends at its closing quote
(`Literal.read_of_spells`), but a numeral goes on as long as it can, so that something else has to stand
behind it (`Numeral.scan_of_spells`).
-/

set_option autoImplicit false

namespace WorkflowLint.Json

section

variable {ε α β : Type}

theorem bind_eq_ok {x : Except ε α} {f : α → Except ε β} {b : β} :
    x >>= f = .ok b ↔ ∃ a, x = .ok a ∧ f a = .ok b := by
  cases x with
  | error e =>
    constructor
    · rintro ⟨⟩
    · rintro ⟨a, ⟨⟩, -⟩
  | ok a => exact ⟨fun h => ⟨a, rfl, h⟩, fun ⟨_, h, h'⟩ => Except.ok.inj h ▸ h'⟩

theorem map_eq_ok {x : Except ε α} {f : α → β} {b : β} :
    x.map f = .ok b ↔ ∃ a, x = .ok a ∧ f a = b := by
  cases x with
  | error e =>
    constructor
    · rintro ⟨⟩
    · rintro ⟨a, ⟨⟩, -⟩
  | ok a => simp [Except.map]

end

namespace Literal

/-! ### Strings -/

theorem hexFour?_eq_some {cs rest : List Char} {n : Nat} :
    hexFour? cs = some (n, rest) ↔ ∃ u, HexUnit n u ∧ cs = u ++ rest := by
  constructor
  · intro h
    match cs with
    | a :: b :: c :: d :: left =>
      simp only [hexFour?, Option.bind_eq_bind, Option.bind_eq_some_iff] at h
      obtain ⟨i, ha, j, hb, k, hc, l, hd, found⟩ := h
      obtain ⟨rfl, rfl⟩ := Prod.mk.inj (Option.some.inj found)
      exact ⟨[a, b, c, d], .mk ha hb hc hd, rfl⟩
    | [] => cases h
    | [_] => cases h
    | [_, _] => cases h
    | [_, _, _] => cases h
  · rintro ⟨_, ⟨ha, hb, hc, hd⟩, rfl⟩
    simp [hexFour?, ha, hb, hc, hd]

theorem hexUnit_eq_ok {cs rest : List Char} {n : Nat} :
    hexUnit cs = .ok (n, rest) ↔ ∃ u, HexUnit n u ∧ cs = u ++ rest := by
  rw [← hexFour?_eq_some, hexUnit]
  cases hexFour? cs with
  | some result => simp
  | none => simp only [reduceCtorEq, iff_false]; split <;> simp

theorem expectInPair_eq_ok {expected : Char} {cs rest : List Char} :
    expectInPair expected cs = .ok rest ↔ cs = expected :: rest := by
  cases cs with
  | nil => simp [expectInPair]
  | cons c cs =>
    rw [expectInPair]
    split
    · next h => simp [h]
    · next h => simp [h]

/-- What stands behind a backslash and `u` is read exactly if it spells a character there. -/
theorem hexEscape_eq_ok {cs rest : List Char} {c : Char} :
    hexEscape cs = .ok (c, rest) ↔
      ∃ text, Spelling c ('\\' :: 'u' :: text) ∧ cs = text ++ rest := by
  constructor
  · intro h
    simp only [hexEscape, bind_eq_ok, Prod.exists] at h
    obtain ⟨n, cs₁, unit, h⟩ := h
    obtain ⟨u, hex, rfl⟩ := hexUnit_eq_ok.1 unit
    split at h
    · cases h
    next low =>
    split at h
    · next high =>
      simp only [bind_eq_ok, expectInPair_eq_ok, Prod.exists] at h
      obtain ⟨_, rfl, cs₂, rfl, m, cs₃, unit', h⟩ := h
      obtain ⟨v, hex', rfl⟩ := hexUnit_eq_ok.1 unit'
      split at h
      · next low' =>
        obtain ⟨rfl, rfl⟩ := Prod.mk.inj (Except.ok.inj h)
        exact ⟨_, .pair hex hex' high low', by simp⟩
      · cases h
    · next high =>
      obtain ⟨rfl, rfl⟩ := Prod.mk.inj (Except.ok.inj h)
      exact ⟨u, .unit hex low high, rfl⟩
  · rintro ⟨text, spells, rfl⟩
    cases spells with
    | letter h => cases h
    | unit hex low high =>
      simp only [hexEscape, bind_eq_ok, Prod.exists]
      exact ⟨_, _, hexUnit_eq_ok.2 ⟨_, hex, rfl⟩, by rw [if_neg low, if_neg high]; rfl⟩
    | @pair n m u v hex hex' high low =>
      have first : ¬(0xDC00 ≤ n ∧ n ≤ 0xDFFF) := by omega
      have unit : hexUnit (u ++ '\\' :: 'u' :: (v ++ rest)) = .ok (n, '\\' :: 'u' :: (v ++ rest)) :=
        hexUnit_eq_ok.2 ⟨u, hex, rfl⟩
      have unit' : hexUnit (v ++ rest) = .ok (m, rest) := hexUnit_eq_ok.2 ⟨v, hex', rfl⟩
      simp only [hexEscape, List.append_assoc, List.cons_append, unit, bind, Except.bind,
        if_neg first, if_pos high, expectInPair, if_true, unit', if_pos low]
      rfl

/-- What stands behind a backslash is read exactly if it spells a character there. -/
theorem escape_eq_ok {cs rest : List Char} {c : Char} :
    escape cs = .ok (c, rest) ↔ ∃ text, Spelling c ('\\' :: text) ∧ cs = text ++ rest := by
  constructor
  · intro h
    cases cs with
    | nil => cases h
    | cons e cs =>
      rw [escape] at h
      split at h
      · next mark =>
        obtain ⟨text, spells, rfl⟩ := hexEscape_eq_ok.1 h
        exact ⟨'u' :: text, spells, by rw [mark]; rfl⟩
      · split at h
        · next d short =>
          obtain ⟨rfl, rfl⟩ := Prod.mk.inj (Except.ok.inj h)
          exact ⟨[e], .letter short, rfl⟩
        · cases h
  · rintro ⟨text, spells, rfl⟩
    cases spells with
    | plain _ backslash _ => exact absurd rfl backslash
    | @letter _ e h =>
      have other : e ≠ 'u' := by
        rintro rfl
        cases h
      simp [escape, other, h]
    | unit hex low high => exact hexEscape_eq_ok.2 ⟨_, .unit hex low high, rfl⟩
    | pair hex hex' high low => exact hexEscape_eq_ok.2 ⟨_, .pair hex hex' high low, rfl⟩

/-- What is read up to a quote is spelled in front of it. -/
theorem exists_of_readFrom {steps : Nat} {done s : String} {cs rest : List Char}
    (h : readFrom done steps cs = .ok (s, rest)) :
    ∃ chars text, Spells chars text ∧ s = done ++ String.ofList chars ∧ cs = text ++ '"' :: rest := by
  induction steps generalizing done cs with
  | zero => cases h
  | succ steps ih =>
    cases cs with
    | nil => cases h
    | cons c cs =>
      rw [readFrom] at h
      split at h
      · next quote =>
        obtain ⟨rfl, rfl⟩ := Prod.mk.inj (Except.ok.inj h)
        exact ⟨[], [], .nil, by simp, by rw [quote]; rfl⟩
      next quote =>
      split at h
      · next backslash =>
        split at h
        · next d cs' escaped =>
          obtain ⟨text, first, rfl⟩ := escape_eq_ok.1 escaped
          obtain ⟨chars, text', behind, rfl, rfl⟩ := ih h
          refine ⟨d :: chars, _, .cons first behind, ?_, by simp [backslash]⟩
          simp [← String.toList_inj]
        · cases h
      next backslash =>
      split at h
      · cases h
      · next visible =>
        obtain ⟨chars, text', behind, rfl, rfl⟩ := ih h
        refine ⟨c :: chars, _, .cons (.plain quote backslash visible) behind, ?_, by simp⟩
        simp [← String.toList_inj]

theorem exists_of_read {steps : Nat} {s : String} {cs rest : List Char}
    (h : read steps cs = .ok (s, rest)) :
    ∃ text, Spells s.toList text ∧ cs = text ++ '"' :: rest := by
  obtain ⟨chars, text, spells, rfl, rfl⟩ := exists_of_readFrom h
  exact ⟨text, by simpa using spells, rfl⟩

/-- One step takes the spelling of one character. -/
theorem readFrom_append {c : Char} {text : List Char} (spells : Spelling c text) (done : String)
    (steps : Nat) (rest : List Char) :
    readFrom done (steps + 1) (text ++ rest) = readFrom (done.push c) steps rest := by
  have escaped {e : List Char} (h : Spelling c ('\\' :: e)) :
      readFrom done (steps + 1) ('\\' :: (e ++ rest)) = readFrom (done.push c) steps rest := by
    rw [readFrom, if_neg (by decide), if_pos rfl, escape_eq_ok.2 ⟨e, h, rfl⟩]
  cases spells with
  | plain quote backslash visible =>
    rw [List.singleton_append, readFrom, if_neg quote, if_neg backslash, if_neg visible]
  | letter h => exact escaped (.letter h)
  | unit hex low high => exact escaped (.unit hex low high)
  | pair hex hex' high low => exact escaped (.pair hex hex' high low)

theorem Spelling.ne_nil {c : Char} {text : List Char} (h : Spelling c text) : text ≠ [] := by
  cases h <;> exact List.cons_ne_nil _ _

theorem readFrom_of_spells {chars text : List Char} (spells : Spells chars text) (rest : List Char)
    {steps : Nat} (enough : text.length < steps) (done : String) :
    readFrom done steps (text ++ '"' :: rest) = .ok (done ++ String.ofList chars, rest) := by
  induction spells generalizing steps done with
  | nil =>
    obtain ⟨steps, rfl⟩ := Nat.exists_eq_add_one.2 enough
    simp [readFrom]
  | @cons c s first behind spelled _ ih =>
    obtain ⟨steps, rfl⟩ := Nat.exists_eq_add_one.2 (Nat.zero_lt_of_lt enough)
    have one := List.length_pos_iff.2 spelled.ne_nil
    rw [List.length_append] at enough
    rw [List.append_assoc, readFrom_append spelled, ih (by omega)]
    congr 2
    simp [← String.toList_inj]

/-- All spellings of a string are read, up to the quote behind them. -/
theorem read_of_spells {s : String} {text : List Char} (spells : Spells s.toList text)
    (rest : List Char) {steps : Nat} (enough : text.length < steps) :
    read steps (text ++ '"' :: rest) = .ok (s, rest) := by
  rw [read, readFrom_of_spells spells rest enough, String.ofList_toList, String.empty_append]

end Literal

/-! ### Numerals -/

/-- What stands here is no digit that goes on with those in front of it. -/
def DigitsEnd (rest : List Char) : Prop := ∀ c ∈ rest.head?, c.isDigit = false

/-- What stands here is no part of a numeral in front of it. -/
def NumeralEnds (rest : List Char) : Prop :=
  ∀ c ∈ rest.head?, c.isDigit = false ∧ c ≠ '.' ∧ c ≠ 'e' ∧ c ≠ 'E'

theorem NumeralEnds.digitsEnd {rest : List Char} (ends : NumeralEnds rest) : DigitsEnd rest :=
  fun c hc => (ends c hc).1

theorem DigitsEnd.cons {c : Char} (h : c.isDigit = false) (rest : List Char) :
    DigitsEnd (c :: rest) := by
  intro d hd
  obtain rfl := Option.some.inj hd
  exact h

namespace Numeral

theorem takeWhile_append {ds rest : List Char} (h : ∀ c ∈ ds, c.isDigit) (ends : DigitsEnd rest) :
    (ds ++ rest).takeWhile Char.isDigit = ds ∧ (ds ++ rest).dropWhile Char.isDigit = rest := by
  rw [List.takeWhile_append_of_pos h, List.dropWhile_append_of_pos h]
  cases rest with
  | nil => simp
  | cons c rest =>
    have other := ends c rfl
    simp [other]

theorem exists_of_digits {cs ds rest : List Char} (h : digits cs = .ok (ds, rest)) :
    Digits ds ∧ cs = ds ++ rest := by
  unfold digits at h
  split at h
  · cases h
  · next some =>
    obtain ⟨rfl, rfl⟩ := Prod.mk.inj (Except.ok.inj h)
    have run : ∀ c ∈ cs.takeWhile Char.isDigit, c.isDigit :=
      List.all_eq_true.1 List.all_takeWhile
    exact ⟨⟨some, run⟩, List.takeWhile_append_dropWhile.symm⟩

theorem digits_append {ds rest : List Char} (h : Digits ds) (ends : DigitsEnd rest) :
    digits (ds ++ rest) = .ok (ds, rest) := by
  obtain ⟨taken, dropped⟩ := takeWhile_append h.2 ends
  unfold digits
  rw [taken, dropped]
  split
  · exact absurd rfl h.1
  · rfl

theorem exists_of_scanWhole {cs ds rest : List Char} (h : scanWhole cs = .ok (ds, rest)) :
    Whole ds ∧ cs = ds ++ rest := by
  unfold scanWhole at h
  split at h
  · split at h
    · obtain ⟨rfl, rfl⟩ := Prod.mk.inj (Except.ok.inj h)
      exact ⟨⟨⟨by simp, by simp⟩, fun _ => rfl⟩, rfl⟩
    · cases h
  · next other =>
    obtain ⟨run, rfl⟩ := exists_of_digits h
    refine ⟨⟨run, fun zero => ?_⟩, rfl⟩
    obtain ⟨tail, rfl⟩ := List.head?_eq_some_iff.1 zero
    exact absurd rfl (other (tail ++ rest))

theorem scanWhole_append {ds rest : List Char} (h : Whole ds) (ends : DigitsEnd rest) :
    scanWhole (ds ++ rest) = .ok (ds, rest) := by
  unfold scanWhole
  split
  · next tail e =>
    obtain ⟨⟨some, _⟩, alone⟩ := h
    obtain ⟨c, ds, rfl⟩ := List.exists_cons_of_ne_nil some
    obtain ⟨rfl, rfl⟩ := List.cons.inj e
    obtain ⟨-, rfl⟩ := List.cons.inj (alone rfl)
    have taken : rest.takeWhile Char.isDigit = [] :=
      (takeWhile_append (fun _ h => absurd h List.not_mem_nil) ends).1
    exact if_pos (List.isEmpty_iff.2 taken)
  · exact digits_append h.1 ends

theorem exists_of_scanFraction {cs ds rest : List Char} (h : scanFraction cs = .ok (ds, rest)) :
    ∃ text, Fraction ds text ∧ cs = text ++ rest := by
  unfold scanFraction at h
  split at h
  · obtain ⟨run, rfl⟩ := exists_of_digits h
    exact ⟨_, .some run, rfl⟩
  · obtain ⟨rfl, rfl⟩ := Prod.mk.inj (Except.ok.inj h)
    exact ⟨[], .none, rfl⟩

theorem scanFraction_append {ds text rest : List Char} (h : Fraction ds text) (ends : DigitsEnd rest)
    (point : rest.head? ≠ some '.') : scanFraction (text ++ rest) = .ok (ds, rest) := by
  cases h with
  | none =>
    unfold scanFraction
    split
    · next e =>
      rw [List.nil_append] at e
      exact absurd (congrArg List.head? e) point
    · rfl
  | some run => exact digits_append run ends

theorem scanSign_cases (cs : List Char) :
    (∃ rest, cs = '+' :: rest ∧ scanSign cs = (false, rest)) ∨
      (∃ rest, cs = '-' :: rest ∧ scanSign cs = (true, rest)) ∨ scanSign cs = (false, cs) := by
  unfold scanSign
  split
  · exact .inl ⟨_, rfl, rfl⟩
  · exact .inr (.inl ⟨_, rfl, rfl⟩)
  · exact .inr (.inr rfl)

theorem exists_of_scanExponent {cs rest : List Char} {e : Option (Bool × List Char)}
    (h : scanExponent cs = .ok (e, rest)) : ∃ text, Exponent e text ∧ cs = text ++ rest := by
  cases cs with
  | nil =>
    obtain ⟨rfl, rfl⟩ := Prod.mk.inj (Except.ok.inj h)
    exact ⟨[], .none, rfl⟩
  | cons c cs =>
    rw [scanExponent] at h
    split at h
    · next mark =>
      rcases scanSign_cases cs with ⟨cs, rfl, sign⟩ | ⟨cs, rfl, sign⟩ | sign
      all_goals
        simp only [sign, bind_eq_ok, Prod.exists] at h
        obtain ⟨ds, rest', run, h⟩ := h
        obtain ⟨rfl, rfl⟩ := Prod.mk.inj (Except.ok.inj h)
        obtain ⟨all, rfl⟩ := exists_of_digits run
      · exact ⟨_, .plus mark all, rfl⟩
      · exact ⟨_, .minus mark all, rfl⟩
      · exact ⟨_, .unsigned mark all, rfl⟩
    · obtain ⟨rfl, rfl⟩ := Prod.mk.inj (Except.ok.inj h)
      exact ⟨[], .none, rfl⟩

theorem scanExponent_append {e : Option (Bool × List Char)} {text rest : List Char}
    (h : Exponent e text) (ends : NumeralEnds rest) :
    scanExponent (text ++ rest) = .ok (e, rest) := by
  cases h with
  | none =>
    cases rest with
    | nil => rfl
    | cons c rest =>
      obtain ⟨-, -, small, capital⟩ := ends c rfl
      exact if_neg (not_or.2 ⟨small, capital⟩)
  | @unsigned c ds mark run =>
    have bare : scanSign (ds ++ rest) = (false, ds ++ rest) := by
      obtain ⟨d, ds, rfl⟩ := List.exists_cons_of_ne_nil run.1
      have digit := run.2 d List.mem_cons_self
      unfold scanSign
      split
      · next e =>
        obtain ⟨rfl, -⟩ := List.cons.inj e
        cases digit
      · next e =>
        obtain ⟨rfl, -⟩ := List.cons.inj e
        cases digit
      · rfl
    rw [List.cons_append, scanExponent, if_pos mark]
    simp only [bare, digits_append run ends.digitsEnd, bind, Except.bind]
    rfl
  | plus mark run =>
    rw [List.cons_append, List.cons_append, scanExponent, if_pos mark]
    simp only [scanSign, digits_append run ends.digitsEnd, bind, Except.bind]
    rfl
  | minus mark run =>
    rw [List.cons_append, List.cons_append, scanExponent, if_pos mark]
    simp only [scanSign, digits_append run ends.digitsEnd, bind, Except.bind]
    rfl

theorem exists_of_scan {negative : Bool} {n : Numeral} {cs rest : List Char}
    (h : scan negative cs = .ok (n, rest)) :
    n.negative = negative ∧ ∃ text, n.Spells text ∧ cs = text ++ rest := by
  simp only [scan, bind_eq_ok, Prod.exists] at h
  obtain ⟨whole, _, hw, fraction, _, hf, exponent, _, he, h⟩ := h
  obtain ⟨rfl, rfl⟩ := Prod.mk.inj (Except.ok.inj h)
  obtain ⟨run, rfl⟩ := exists_of_scanWhole hw
  obtain ⟨f, behind, rfl⟩ := exists_of_scanFraction hf
  obtain ⟨e, scaled, rfl⟩ := exists_of_scanExponent he
  exact ⟨rfl, whole ++ (f ++ e), ⟨run, f, e, behind, scaled, rfl⟩, by simp⟩

theorem scan_of_spells {n : Numeral} {text rest : List Char} (h : n.Spells text)
    (ends : NumeralEnds rest) : scan n.negative (text ++ rest) = .ok (n, rest) := by
  obtain ⟨negative, whole, fraction, exponent⟩ := n
  obtain ⟨run, f, e, behind, scaled, rfl⟩ := h
  dsimp only at run behind scaled ⊢
  -- what stands behind each part does not begin like it
  have exponentMark {c : Char} (mark : c = 'e' ∨ c = 'E') (cs : List Char) :
      DigitsEnd (c :: cs) ∧ (c :: cs).head? ≠ some '.' := by
    rcases mark with rfl | rfl <;> exact ⟨.cons (by decide) cs, by simp⟩
  have pointless : DigitsEnd (e ++ rest) ∧ (e ++ rest).head? ≠ some '.' := by
    cases scaled with
    | none => exact ⟨ends.digitsEnd, fun point => (ends '.' point).2.1 rfl⟩
    | unsigned mark => exact exponentMark mark _
    | plus mark => exact exponentMark mark _
    | minus mark => exact exponentMark mark _
  have whole' : DigitsEnd (f ++ (e ++ rest)) := by
    cases behind with
    | none => exact pointless.1
    | some => exact .cons (by decide) _
  rw [List.append_assoc, List.append_assoc, scan]
  simp only [scanWhole_append run whole', scanFraction_append behind pointless.1 pointless.2,
    scanExponent_append scaled ends, bind, Except.bind]
  rfl

end Numeral

end WorkflowLint.Json
