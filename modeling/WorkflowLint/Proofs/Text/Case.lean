import WorkflowLint.Text.Blank
import WorkflowLint.Text.Case

/-!
# Properties of the case mappings

Lower case is its own lower case, and the first character of an upper case its own upper case; no
mapping makes a blank or a digit of another character. The tables are checked run by run: of a run
only the interval of its images matters (`CaseRun.avoids`), and of two runs whether an image under
the one is covered by the other (`CaseRun.apart`). One evaluation does it for both (`runs_checked`).
-/

set_option autoImplicit false

namespace WorkflowLint.Text

/-! ### ASCII -/

theorem toNat_toUpper (c : Char) :
    c.toUpper.toNat = if 97 ≤ c.toNat ∧ c.toNat ≤ 122 then c.toNat - 32 else c.toNat := by
  unfold Char.toUpper
  simp only [UInt32.le_iff_toNat_le]
  split
  · next h =>
    have small : 97 ≤ c.toNat ∧ c.toNat ≤ 122 := h
    have code : c.val.toNat = c.toNat := rfl
    have distance : ('A'.val - 'a'.val).toNat = 2 ^ 32 - 32 := rfl
    rw [if_pos small]
    show (c.val + ('A'.val - 'a'.val)).toNat = _
    rw [UInt32.toNat_add]
    omega
  · next h => exact (if_neg h).symm

theorem toNat_toLower (c : Char) :
    c.toLower.toNat = if 65 ≤ c.toNat ∧ c.toNat ≤ 90 then c.toNat + 32 else c.toNat := by
  unfold Char.toLower
  simp only [ge_iff_le, UInt32.le_iff_toNat_le]
  split
  · next h =>
    have capital : 65 ≤ c.toNat ∧ c.toNat ≤ 90 := h
    have code : c.val.toNat = c.toNat := rfl
    have distance : ('a'.val - 'A'.val).toNat = 32 := rfl
    rw [if_pos capital]
    show (c.val + ('a'.val - 'A'.val)).toNat = _
    rw [UInt32.toNat_add]
    omega
  · next h => exact (if_neg h).symm

theorem toLower_eq_self_iff {c : Char} : c.toLower = c ↔ ¬(65 ≤ c.toNat ∧ c.toNat ≤ 90) := by
  rw [← Char.toNat_inj, toNat_toLower]
  split
  · next h => exact iff_of_false (by omega) (not_not_intro h)
  · next h => exact iff_of_true rfl h

theorem toUpper_eq_self_iff {c : Char} : c.toUpper = c ↔ ¬(97 ≤ c.toNat ∧ c.toNat ≤ 122) := by
  rw [← Char.toNat_inj, toNat_toUpper]
  split
  · next h => exact iff_of_false (by omega) (not_not_intro h)
  · next h => exact iff_of_true rfl h

theorem toLower_toLower (c : Char) : c.toLower.toLower = c.toLower := by
  rw [toLower_eq_self_iff, toNat_toLower]
  split <;> omega

theorem toUpper_toUpper (c : Char) : c.toUpper.toUpper = c.toUpper := by
  rw [toUpper_eq_self_iff, toNat_toUpper]
  split <;> omega

theorem toLower_toUpper (c : Char) : c.toUpper.toLower = c.toLower := by
  rw [← Char.toNat_inj, toNat_toLower, toNat_toLower, toNat_toUpper]
  by_cases small : 97 ≤ c.toNat ∧ c.toNat ≤ 122
  · rw [if_pos small, if_pos (by omega), if_neg (by omega)]
    omega
  · rw [if_neg small]

/-! ### Runs -/

/-- A code point that names a character is that character's. -/
theorem toNat_ofNat_of_pos {n : Nat} (h : 0 < (Char.ofNat n).toNat) : (Char.ofNat n).toNat = n := by
  by_cases valid : n.isValidChar
  · rw [Char.ofNat, dif_pos valid]
    rfl
  · rw [Char.ofNat, dif_neg valid] at h
    cases h

namespace CaseRun

/-- The image of a code point that the run covers. -/
def move (run : CaseRun) (code : Nat) : Nat := (code + run.offset).toNat

/-- No image under the run lies between these code points. -/
def avoids (run : CaseRun) (low high : Nat) : Bool :=
  Nat.blt (run.move run.last) low || Nat.blt high (run.move run.first)

/-- No image under the run is covered by the other one: the two do not meet, or both go in steps of
two and never to the same code point. -/
def apart (run other : CaseRun) : Bool :=
  run.avoids other.first other.last ||
    (Nat.blt 0 (run.move run.first) && (Nat.beq run.first run.last || Nat.beq run.step 2) &&
      Nat.beq other.step 2 && Nat.beq ((run.move run.first + other.first) % 2) 1)

/-- No image under a run of the table is covered by a run of it or lies in one of the intervals. -/
def checked (runs : List CaseRun) (free : List (Nat × Nat)) : Bool :=
  runs.all (fun run => runs.all run.apart) &&
    free.all fun i => Nat.blt 0 i.1 && runs.all fun run => run.avoids i.1 i.2

theorem covers_iff {run : CaseRun} {code : Nat} :
    run.covers code = true ↔
      run.first ≤ code ∧ code ≤ run.last ∧ (code - run.first) % run.step = 0 := by
  simp [covers, and_assoc]

theorem not_between_of_avoids {run : CaseRun} {code low high : Nat}
    (h : run.avoids low high = true) (covered : run.covers code = true) :
    ¬(low ≤ run.move code ∧ run.move code ≤ high) := by
  obtain ⟨first, last, -⟩ := covers_iff.1 covered
  simp only [avoids, Bool.or_eq_true, Nat.blt_eq] at h
  unfold move at h ⊢
  omega

theorem covers_move_of_apart {run other : CaseRun} {code : Nat} (h : run.apart other = true)
    (covered : run.covers code = true) : other.covers (run.move code) = false := by
  rw [Bool.eq_false_iff]
  intro again
  obtain ⟨first', last', step'⟩ := covers_iff.1 again
  rw [apart, Bool.or_eq_true] at h
  rcases h with h | h
  · exact not_between_of_avoids h covered ⟨first', last'⟩
  · obtain ⟨first, last, step⟩ := covers_iff.1 covered
    simp only [Bool.and_eq_true, Bool.or_eq_true, Nat.blt_eq, Nat.beq_eq] at h
    obtain ⟨⟨⟨positive, steps⟩, two⟩, parity⟩ := h
    rw [two] at step'
    have even : (code - run.first) % 2 = 0 := by
      rcases steps with single | two
      · omega
      · rwa [two] at step
    unfold move at first' step' positive parity
    omega

variable {runs : List CaseRun} {code : Nat}

theorem image_cases (runs : List CaseRun) (code : Nat) :
    image runs code = code ∧ (∀ run ∈ runs, run.covers code = false) ∨
      ∃ run ∈ runs, run.covers code = true ∧ image runs code = run.move code := by
  unfold image
  cases h : runs.find? fun run => run.covers code with
  | none => exact .inl ⟨rfl, fun run hr => by simpa using List.find?_eq_none.1 h run hr⟩
  | some run =>
    have covered := List.find?_some h
    exact .inr ⟨run, List.mem_of_find?_eq_some h, covered, rfl⟩

/-- Code points that no image lies between are reached from themselves only. -/
theorem image_eq_self {low high : Nat} (h : runs.all (fun run => run.avoids low high) = true)
    (between : low ≤ image runs code ∧ image runs code ≤ high) : image runs code = code := by
  rcases image_cases runs code with ⟨same, -⟩ | ⟨run, mem, covered, moved⟩
  · exact same
  · rw [moved] at between
    exact absurd between (not_between_of_avoids (List.all_eq_true.1 h run mem) covered)

theorem image_image (h : runs.all (fun run => runs.all run.apart) = true) :
    image runs (image runs code) = image runs code := by
  rcases image_cases runs code with ⟨same, -⟩ | ⟨run, mem, covered, moved⟩
  · rw [same, same]
  · have uncovered : ∀ other ∈ runs, other.covers (run.move code) = false := fun other mem' =>
      covers_move_of_apart (List.all_eq_true.1 (List.all_eq_true.1 h run mem) other mem') covered
    rw [moved]
    rcases image_cases runs (run.move code) with ⟨same, -⟩ | ⟨other, mem', covered', -⟩
    · exact same
    · rw [uncovered other mem'] at covered'
      cases covered'

theorem apart_of_checked {free : List (Nat × Nat)} (h : checked runs free = true) :
    runs.all (fun run => runs.all run.apart) = true := by
  rw [checked, Bool.and_eq_true] at h
  exact h.1

theorem avoid_of_checked {free : List (Nat × Nat)} (h : checked runs free = true) :
    ∀ i ∈ free, 0 < i.1 ∧ runs.all (fun run => run.avoids i.1 i.2) = true := by
  rw [checked, Bool.and_eq_true] at h
  intro i mem
  have avoids := List.all_eq_true.1 h.2 i mem
  rwa [Bool.and_eq_true, Nat.blt_eq] at avoids

/-- The same for the characters with these code points. -/
theorem ofNat_image_eq_self {c : Char} {low high : Nat}
    (h : runs.all (fun run => run.avoids low high) = true) (positive : 0 < low)
    (between : low ≤ (Char.ofNat (image runs c.toNat)).toNat ∧
      (Char.ofNat (image runs c.toNat)).toNat ≤ high) : Char.ofNat (image runs c.toNat) = c := by
  rw [toNat_ofNat_of_pos (by omega)] at between
  rw [image_eq_self h between, Char.ofNat_toNat]

theorem ofNat_image_ofNat_image (h : runs.all (fun run => runs.all run.apart) = true)
    (positive : 0 < (Char.ofNat (image runs code)).toNat) :
    Char.ofNat (image runs (Char.ofNat (image runs code)).toNat) =
      Char.ofNat (image runs code) := by
  rw [toNat_ofNat_of_pos positive, image_image h]

end CaseRun

/-! ### The tables -/

/-- The blank characters by intervals. -/
def blankIntervals : List (Nat × Nat) :=
  [(0x9, 0xD), (0x20, 0x20), (0x85, 0x85), (0xA0, 0xA0), (0x1680, 0x1680), (0x2000, 0x200A),
    (0x2028, 0x2029), (0x202F, 0x202F), (0x205F, 0x205F), (0x3000, 0x3000)]

theorem isBlank_iff (c : Char) :
    isBlank c = true ↔ ∃ i ∈ blankIntervals, i.1 ≤ c.toNat ∧ c.toNat ≤ i.2 := by
  simp only [isBlank, blankIntervals, List.mem_cons, List.not_mem_nil, or_false, exists_eq_or_imp,
    exists_eq_left, Bool.or_eq_true, Bool.and_eq_true, decide_eq_true_eq, beq_iff_eq]
  omega

/-- Digits, small ASCII letters, blanks and the characters whose upper case is long. -/
def upperFree : List (Nat × Nat) :=
  (0x30, 0x39) :: (0x61, 0x7A) :: blankIntervals ++ upperLong.map fun entry => (entry.1, entry.1)

/-- ASCII capitals, the dotted capital I and blanks. -/
def lowerFree : List (Nat × Nat) := (0x41, 0x5A) :: (0x130, 0x130) :: blankIntervals

/-- Both tables are as they should be, by one evaluation: no run of `upperRuns` leads into `upperFree`
and no run of `lowerRuns` into `lowerFree`, and none to where a run of its table begins or goes on. -/
theorem runs_checked : CaseRun.checked upperRuns upperFree = true ∧
    CaseRun.checked lowerRuns lowerFree = true := by
  decide +kernel

theorem apart_upperRuns : upperRuns.all (fun run => upperRuns.all run.apart) = true :=
  CaseRun.apart_of_checked runs_checked.1

theorem apart_lowerRuns : lowerRuns.all (fun run => lowerRuns.all run.apart) = true :=
  CaseRun.apart_of_checked runs_checked.2

theorem upperRuns_avoid : ∀ i ∈ upperFree,
    0 < i.1 ∧ upperRuns.all (fun run => run.avoids i.1 i.2) = true :=
  CaseRun.avoid_of_checked runs_checked.1

theorem lowerRuns_avoid : ∀ i ∈ lowerFree,
    0 < i.1 ∧ lowerRuns.all (fun run => run.avoids i.1 i.2) = true :=
  CaseRun.avoid_of_checked runs_checked.2

theorem upperRuns_avoid_blanks : ∀ i ∈ blankIntervals,
    0 < i.1 ∧ upperRuns.all (fun run => run.avoids i.1 i.2) = true := fun i mem =>
  upperRuns_avoid i (List.mem_cons_of_mem _ (List.mem_cons_of_mem _ (List.mem_append_left _ mem)))

theorem lowerRuns_avoid_blanks : ∀ i ∈ blankIntervals,
    0 < i.1 ∧ lowerRuns.all (fun run => run.avoids i.1 i.2) = true := fun i mem =>
  lowerRuns_avoid i (List.mem_cons_of_mem _ (List.mem_cons_of_mem _ mem))

/-- No run leads to a character whose upper case is long. -/
theorem upperRuns_avoid_upperLong : ∀ entry ∈ upperLong,
    0 < entry.1 ∧ upperRuns.all (fun run => run.avoids entry.1 entry.1) = true := fun entry mem =>
  upperRuns_avoid (entry.1, entry.1) <| List.mem_cons_of_mem _ <| List.mem_cons_of_mem _ <|
    List.mem_append_right _ (List.mem_map.2 ⟨entry, mem, rfl⟩)

/-- No run leads to a digit or a small ASCII letter. -/
theorem upperRuns_avoid_ascii : upperRuns.all (fun run => run.avoids 0x30 0x39) = true ∧
    upperRuns.all (fun run => run.avoids 0x61 0x7A) = true :=
  ⟨(upperRuns_avoid _ List.mem_cons_self).2,
    (upperRuns_avoid _ (List.mem_cons_of_mem _ List.mem_cons_self)).2⟩

/-- No run leads to an ASCII capital or to the dotted capital I. -/
theorem lowerRuns_avoid_capitals : lowerRuns.all (fun run => run.avoids 0x41 0x5A) = true ∧
    lowerRuns.all (fun run => run.avoids 0x130 0x130) = true :=
  ⟨(lowerRuns_avoid _ List.mem_cons_self).2,
    (lowerRuns_avoid _ (List.mem_cons_of_mem _ List.mem_cons_self)).2⟩

/-- A long upper case holds no blank and begins with a character in upper case, which is no digit. -/
theorem upperLong_spec : ∀ entry ∈ upperLong, entry.2 ≠ [] ∧
    (∀ code ∈ entry.2, isBlank (Char.ofNat code) = false) ∧
    ∀ code ∈ entry.2.head?, upper (Char.ofNat code) = [Char.ofNat code] ∧
      (Char.ofNat code).isDigit = false := by
  decide +kernel

/-! ### Upper and lower case -/

theorem upper_cases (c : Char) :
    (c.toNat < 128 ∧ upper c = [c.toUpper]) ∨
    (∃ codes, (c.toNat, codes) ∈ upperLong ∧ upper c = codes.map Char.ofNat) ∨
    (128 ≤ c.toNat ∧ upperLong.lookup c.toNat = none ∧
      upper c = [Char.ofNat (CaseRun.image upperRuns c.toNat)]) := by
  by_cases ascii : c.toNat < 128
  · exact .inl ⟨ascii, upper_of_ascii ascii⟩
  · unfold upper
    rw [if_neg ascii]
    cases h : upperLong.lookup c.toNat with
    | some codes =>
      obtain ⟨front, behind, parted, -⟩ := List.lookup_eq_some_iff.1 h
      exact .inr (.inl ⟨codes, parted ▸ List.mem_append_right front List.mem_cons_self, rfl⟩)
    | none => exact .inr (.inr ⟨by omega, rfl, rfl⟩)

theorem lower_cases (c : Char) :
    (c.toNat < 128 ∧ lower c = [c.toLower]) ∨
    (c.toNat = 0x130 ∧ lower c = ['i', Char.ofNat 0x307]) ∨
    (128 ≤ c.toNat ∧ c.toNat ≠ 0x130 ∧
      lower c = [Char.ofNat (CaseRun.image lowerRuns c.toNat)]) := by
  by_cases ascii : c.toNat < 128
  · exact .inl ⟨ascii, lower_of_ascii ascii⟩
  · unfold lower
    rw [if_neg ascii]
    by_cases dotted : c.toNat = 0x130
    · exact .inr (.inl ⟨dotted, if_pos dotted⟩)
    · exact .inr (.inr ⟨by omega, dotted, if_neg dotted⟩)

theorem upper_ne_nil (c : Char) : upper c ≠ [] := by
  rcases upper_cases c with ⟨-, h⟩ | ⟨codes, mem, h⟩ | ⟨-, -, h⟩ <;> rw [h]
  · exact List.cons_ne_nil _ _
  · exact fun none => (upperLong_spec _ mem).1 (List.map_eq_nil_iff.1 none)
  · exact List.cons_ne_nil _ _

/-! ### Blanks and digits -/

theorem blankIntervals_avoid_letters : ∀ i ∈ blankIntervals, i.2 < 65 ∨ 122 < i.1 := by
  decide

theorem isBlank_toUpper (c : Char) : isBlank c.toUpper = isBlank c := by
  rw [Bool.eq_iff_iff, isBlank_iff, isBlank_iff]
  refine exists_congr fun i => and_congr_right fun mem => ?_
  have letters := blankIntervals_avoid_letters i mem
  rw [toNat_toUpper]
  split <;> omega

theorem isBlank_toLower (c : Char) : isBlank c.toLower = isBlank c := by
  rw [Bool.eq_iff_iff, isBlank_iff, isBlank_iff]
  refine exists_congr fun i => and_congr_right fun mem => ?_
  have letters := blankIntervals_avoid_letters i mem
  rw [toNat_toLower]
  split <;> omega

/-- A mapping through such runs makes no blank of another character. -/
theorem isBlank_of_image {runs : List CaseRun} {c : Char}
    (avoid : ∀ i ∈ blankIntervals, 0 < i.1 ∧ runs.all (fun run => run.avoids i.1 i.2) = true)
    (h : isBlank (Char.ofNat (CaseRun.image runs c.toNat)) = true) : isBlank c = true := by
  obtain ⟨i, mem, between⟩ := (isBlank_iff _).1 h
  obtain ⟨positive, avoids⟩ := avoid i mem
  rwa [CaseRun.ofNat_image_eq_self avoids positive between] at h

theorem isBlank_of_mem_upper {c d : Char} (hd : d ∈ upper c) (h : isBlank d = true) :
    isBlank c = true := by
  rcases upper_cases c with ⟨-, e⟩ | ⟨codes, mem, e⟩ | ⟨-, -, e⟩ <;> rw [e] at hd
  · rwa [List.mem_singleton.1 hd, isBlank_toUpper] at h
  · obtain ⟨code, mem', rfl⟩ := List.mem_map.1 hd
    rw [(upperLong_spec _ mem).2.1 code mem'] at h
    cases h
  · rw [List.mem_singleton.1 hd] at h
    exact isBlank_of_image upperRuns_avoid_blanks h

theorem isBlank_of_mem_lower {c d : Char} (hd : d ∈ lower c) (h : isBlank d = true) :
    isBlank c = true := by
  rcases lower_cases c with ⟨-, e⟩ | ⟨-, e⟩ | ⟨-, -, e⟩ <;> rw [e] at hd
  · rwa [List.mem_singleton.1 hd, isBlank_toLower] at h
  · rcases List.mem_cons.1 hd with rfl | hd
    · exact absurd h (by decide)
    · rw [List.mem_singleton.1 hd] at h
      exact absurd h (by decide)
  · rw [List.mem_singleton.1 hd] at h
    exact isBlank_of_image lowerRuns_avoid_blanks h

theorem isDigit_toLower (c : Char) : c.toLower.isDigit = c.isDigit := by
  rw [Bool.eq_iff_iff, Char.isDigit_iff_toNat, Char.isDigit_iff_toNat, toNat_toLower]
  have last : '9'.toNat = 57 := rfl
  split <;> omega

theorem isDigit_of_head?_upper {c d : Char} (hd : d ∈ (upper c).head?) (h : d.isDigit = true) :
    c.isDigit = true := by
  rw [Char.isDigit_iff_toNat] at h ⊢
  rcases upper_cases c with ⟨-, e⟩ | ⟨codes, mem, e⟩ | ⟨-, -, e⟩ <;> rw [e] at hd
  · obtain rfl := Option.some.inj hd
    rw [toNat_toUpper] at h
    split at h
    · next small => exact absurd h.2 (by have : '9'.toNat = 57 := rfl; omega)
    · exact h
  · rw [List.head?_map] at hd
    obtain ⟨code, first, rfl⟩ := Option.map_eq_some_iff.1 hd
    rw [← Char.isDigit_iff_toNat, ((upperLong_spec _ mem).2.2 code first).2] at h
    cases h
  · obtain rfl := Option.some.inj hd
    rwa [CaseRun.ofNat_image_eq_self upperRuns_avoid_ascii.1 (by decide) h] at h

/-! ### Mapping twice -/

theorem flatMap_lower_lower (c : Char) : (lower c).flatMap lower = lower c := by
  rcases lower_cases c with ⟨ascii, e⟩ | ⟨-, e⟩ | ⟨large, dotted, e⟩ <;> rw [e]
  · have ascii' : c.toLower.toNat < 128 := by
      rw [toNat_toLower]
      split <;> omega
    rw [List.flatMap_singleton, lower_of_ascii ascii', toLower_toLower]
  · decide +kernel
  · rw [List.flatMap_singleton]
    rcases lower_cases (Char.ofNat (CaseRun.image lowerRuns c.toNat)) with
      ⟨-, e'⟩ | ⟨dot, -⟩ | ⟨large', -, e'⟩
    · rw [e', toLower_eq_self_iff.2]
      intro capital
      rw [CaseRun.ofNat_image_eq_self lowerRuns_avoid_capitals.1 (by decide) capital] at capital
      omega
    · rw [CaseRun.ofNat_image_eq_self lowerRuns_avoid_capitals.2 (by decide)
        ⟨Nat.le_of_eq dot.symm, Nat.le_of_eq dot⟩] at dot
      exact absurd dot dotted
    · rw [e', CaseRun.ofNat_image_ofNat_image apart_lowerRuns (by omega)]

theorem upper_head_upper {c d : Char} (hd : d ∈ (upper c).head?) : upper d = [d] := by
  rcases upper_cases c with ⟨ascii, e⟩ | ⟨codes, mem, e⟩ | ⟨large, short, e⟩ <;> rw [e] at hd
  · obtain rfl := Option.some.inj hd
    have ascii' : c.toUpper.toNat < 128 := by
      rw [toNat_toUpper]
      split <;> omega
    rw [upper_of_ascii ascii', toUpper_toUpper]
  · rw [List.head?_map] at hd
    obtain ⟨code, first, rfl⟩ := Option.map_eq_some_iff.1 hd
    exact ((upperLong_spec _ mem).2.2 code first).1
  · obtain rfl : Char.ofNat (CaseRun.image upperRuns c.toNat) = d := Option.some.inj hd
    rcases upper_cases (Char.ofNat (CaseRun.image upperRuns c.toNat)) with
      ⟨-, e'⟩ | ⟨codes, mem, -⟩ | ⟨large', -, e'⟩
    · rw [e', toUpper_eq_self_iff.2]
      intro small
      rw [CaseRun.ofNat_image_eq_self upperRuns_avoid_ascii.2 (by decide) small] at small
      omega
    · obtain ⟨positive, avoids⟩ := upperRuns_avoid_upperLong _ mem
      rw [CaseRun.ofNat_image_eq_self avoids positive ⟨Nat.le_refl _, Nat.le_refl _⟩] at mem
      exact absurd rfl (bne_iff_ne.1 (List.lookup_eq_none_iff.1 short _ mem))
    · rw [e', CaseRun.ofNat_image_ofNat_image apart_upperRuns (by omega)]

end WorkflowLint.Text
