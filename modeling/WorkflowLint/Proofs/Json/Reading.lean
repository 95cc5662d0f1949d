import WorkflowLint.Proofs.Json.Brackets

/-!
# What the reader accepts

The texts that are read are those of the grammar, and each is read as the value that it says
(`ofText_eq_ok_iff`). The scan of values takes the texts of values, by induction on the brackets that
may be open (`value_takes`), and of a whole text nothing but blanks may be left (`whole_eq_ok`).
-/

set_option autoImplicit false

namespace WorkflowLint.Json

namespace Reader

theorem isBlank_of_isDigit {c : Char} (h : c.isDigit) : isBlank c = false := by
  have blank : c ≠ ' ' := ne_of_isDigit h (by decide)
  have tab : c ≠ '\t' := ne_of_isDigit h (by decide)
  have feed : c ≠ '\n' := ne_of_isDigit h (by decide)
  have carriage : c ≠ '\r' := ne_of_isDigit h (by decide)
  simp [isBlank, blank, tab, feed, carriage]

/-- What begins here is neither a blank nor a bracket. -/
structure Bare (c : Char) : Prop where
  visible : isBlank c = false
  list : c ≠ '['
  object : c ≠ '\x7b'
  close : c ≠ ']'

theorem Bare.of_isDigit {c : Char} (h : c.isDigit) : Bare c :=
  ⟨isBlank_of_isDigit h, ne_of_isDigit h (by decide), ne_of_isDigit h (by decide),
    ne_of_isDigit h (by decide)⟩

theorem bare_minus : Bare '-' := ⟨by decide, by decide, by decide, by decide⟩

end Reader

open Reader

theorem Scalar.exists_cons {v : Json} {text : List Char} (h : Scalar v text) :
    ∃ c rest, text = c :: rest ∧ Bare c := by
  have numeral {n : Numeral} {cs : List Char} (spells : n.Spells cs) :
      ∃ c rest, (if n.negative then '-' :: cs else cs) = c :: rest ∧ Bare c := by
    obtain ⟨c, rest, rfl, digit⟩ := spells.exists_cons
    split
    · exact ⟨'-', c :: rest, rfl, bare_minus⟩
    · exact ⟨c, rest, rfl, .of_isDigit digit⟩
  cases h with
  | null => exact ⟨_, _, rfl, by decide, by decide, by decide, by decide⟩
  | yes => exact ⟨_, _, rfl, by decide, by decide, by decide, by decide⟩
  | no => exact ⟨_, _, rfl, by decide, by decide, by decide, by decide⟩
  | count => exact numeral (Numeral.spells_toDigits false _)
  | negative => exact ⟨_, _, rfl, bare_minus⟩
  | double spells => exact numeral spells
  | str => exact ⟨_, _, rfl, by decide, by decide, by decide, by decide⟩

theorem Spells.scalar {v : Json} {text : List Char} (h : Scalar v text) (room : Nat) :
    Spells room v text := by
  cases room with
  | zero => exact h
  | succ room => exact Bracketed.scalar h

/-- Every text of a value begins with a character that is neither blank nor closes a list. -/
theorem Spells.starts {room : Nat} {v : Json} {text : List Char} (h : Spells room v text) :
    Starts text := by
  have scalar (h : Scalar v text) : Starts text := by
    obtain ⟨c, rest, rfl, bare⟩ := h.exists_cons
    exact ⟨c, rest, rfl, bare.visible, bare.close⟩
  cases room with
  | zero => exact scalar h
  | succ room =>
    cases h with
    | scalar h => exact scalar h
    | arr => exact ⟨_, _, rfl, by decide, by decide⟩
    | obj => exact ⟨_, _, rfl, by decide, by decide⟩

namespace Reader

/-- What begins neither a list nor an object is a scalar. -/
theorem value_scalar (steps room : Nat) {cs rest : List Char} {c : Char}
    (found : skip cs = c :: rest) (list : c ≠ '[') (object : c ≠ '\x7b') : value steps room cs = scalar steps (c :: rest) := by
  cases room <;> rw [value, found] <;> exact (if_neg list).trans (if_neg object)

theorem exists_of_value_scalar {steps room : Nat} {cs tail rest : List Char} {c : Char} {v : Json}
    (found : skip cs = c :: tail) (list : c ≠ '[') (object : c ≠ '\x7b')
    (h : value steps room cs = .ok (v, rest)) :
    ∃ run text, Blank run ∧ Spells room v text ∧ cs = run ++ (text ++ rest) := by
  obtain ⟨-, run, blank, rfl⟩ := exists_of_skip found
  rw [value_scalar steps room found list object] at h
  obtain ⟨text, spells, whole⟩ := exists_of_scalar h
  exact ⟨run, text, blank, .scalar spells room, by rw [whole]⟩

theorem value_of_scalar {steps room : Nat} {run text rest : List Char} {v : Json} (blank : Blank run)
    (spells : Scalar v text) (enough : text.length < steps) (ends : NumeralEnds rest) :
    value steps room (run ++ (text ++ rest)) = .ok (v, rest) := by
  have read := scalar_of_spells spells ends enough
  obtain ⟨c, tail, rfl, bare⟩ := spells.exists_cons
  rw [List.cons_append] at read ⊢
  have found : skip (run ++ c :: (tail ++ rest)) = c :: (tail ++ rest) := by
    rw [skip_append blank, skip_cons bare.visible]
  rw [value_scalar steps room found bare.list bare.object, read]

theorem value_list (steps room : Nat) {cs rest : List Char} (found : skip cs = '[' :: rest) :
    value steps (room + 1) cs =
      (list steps (value steps room) rest).map fun (vs, cs) => (.arr vs, cs) := by
  rw [value, found]
  rfl

theorem value_object (steps room : Nat) {cs rest : List Char} (found : skip cs = '\x7b' :: rest) :
    value steps (room + 1) cs =
      (object steps (fun _ => member steps (value steps room)) rest).map fun (ms, cs) =>
        (.obj ms, cs) := by
  rw [value, found]
  rfl

/-- The reader of values takes the texts of values with as many brackets open as it has room for. -/
theorem value_takes (bound room : Nat) : Takes bound (value bound room) (Spells room) := by
  induction room with
  | zero =>
    refine ⟨fun {cs rest v} h => ?_, value_of_scalar, Spells.starts⟩
    cases found : skip cs with
    | nil =>
      rw [value, found] at h
      cases h
    | cons c tail =>
      by_cases list : c = '['
      · rw [value, found] at h
        cases (if_pos list).symm.trans h
      by_cases object : c = '\x7b'
      · rw [value, found] at h
        cases (if_pos object).symm.trans ((if_neg list).symm.trans h)
      exact exists_of_value_scalar found list object h
  | succ room ih =>
    refine ⟨fun {cs rest v} h => ?_, fun {run text rest v} blank spells enough ends => ?_,
      Spells.starts⟩
    · cases found : skip cs with
      | nil =>
        rw [value, found] at h
        cases h
      | cons c tail =>
        obtain ⟨-, run, blank, rfl⟩ := exists_of_skip found
        by_cases list : c = '['
        · obtain rfl := list
          rw [value_list bound room found] at h
          obtain ⟨⟨vs, rest'⟩, read, e⟩ := map_eq_ok.1 h
          obtain ⟨rfl, rfl⟩ := Prod.mk.inj e
          obtain ⟨text, items, rfl⟩ := exists_of_list ih read
          exact ⟨run, _, blank, .arr (listed_iff.2 items), by simp⟩
        by_cases object : c = '\x7b'
        · obtain rfl := object
          rw [value_object bound room found] at h
          obtain ⟨⟨ms, rest'⟩, read, e⟩ := map_eq_ok.1 h
          obtain ⟨rfl, rfl⟩ := Prod.mk.inj e
          obtain ⟨-, text, members, rfl⟩ := exists_of_object ih.member read
          exact ⟨run, _, blank, .obj (listed_iff.2 members), by simp⟩
        exact exists_of_value_scalar found list object h
    · cases spells with
      | scalar spells => exact value_of_scalar blank spells enough ends
      | @arr items text listed =>
        have found := skip_bracketed blank (show isBlank '[' = false by decide) text ']' rest
        simp only [List.length_cons, List.length_append] at enough
        rw [value_list bound room found, list_of_follows ih (listed_iff.1 listed) (by omega) rest]
        rfl
      | @obj members text listed =>
        have found := skip_bracketed blank (show isBlank '\x7b' = false by decide) text '\x7d' rest
        simp only [List.length_cons, List.length_append] at enough
        have each := Each.of_forall (fun _ _ => trivial) [] members
        rw [value_object bound room found,
          object_of_follows ih.member each (listed_iff.1 listed) (by omega) rest]
        rfl

/-- A whole text is read exactly if it is one that the scan takes, with blanks behind it. -/
theorem whole_eq_ok {α : Type} {scan : Nat → Scan α} {part : α → List Char → Prop}
    (takes : ∀ bound, Takes bound (scan bound) part) {text : List Char} {a : α} :
    whole scan text = .ok a ↔ Padded part a text := by
  constructor
  · intro h
    unfold whole at h
    split at h
    · cases h
    next b rest read =>
    split at h
    · next ended =>
      obtain rfl := Except.ok.inj h
      obtain ⟨run, cs, blank, spells, rfl⟩ := (takes _).sound read
      obtain ⟨run', blank', whole⟩ := exists_skip rest
      rw [List.isEmpty_iff.1 ended, List.append_nil] at whole
      exact ⟨blank, spells, whole ▸ blank'⟩
    · cases h
  · rintro @⟨before, cs, behind, blank, spells, blank'⟩
    have ends : NumeralEnds behind := by
      rw [← List.append_nil behind]
      exact .append blank' .nil
    have enough : cs.length < (before ++ (cs ++ behind)).length + 1 := by
      simp only [List.length_append]
      omega
    rw [whole, (takes _).complete blank spells enough ends]
    exact if_pos (List.isEmpty_iff.2 (skip_of_blank blank'))

end Reader

/-- **What the reader accepts.** A text is read as a value exactly if the grammar says that it is a
text of that value, with blanks around it. -/
theorem ofText_eq_ok_iff {text : String} {v : Json} :
    ofText text = .ok v ↔ Padded (Spells nestingLimit) v text.toList :=
  whole_eq_ok fun bound => value_takes bound nestingLimit

end WorkflowLint.Json
