import WorkflowLint.Proofs.Json.Ordered
import WorkflowLint.Proofs.Json.RoundTrip

/-!
# Texts of properties

A property is read as the canonical form of the value that a text says (`propertyOfText`). What is read
keeps within the bounds of the reader (`Spells.fits`) and does so in canonical form
(`Fits.canonical`), so a property without doubles is read again from its own text, and that text is the
same for all texts with the same meaning (`property_written`).
-/

set_option autoImplicit false

namespace WorkflowLint.Json

/-- The property that a text says. -/
def propertyOfText (text : String) : Except ReadError Json := (ofText text).map canonical

theorem propertyOfText_eq_ok_iff {text : String} {v : Json} : propertyOfText text = .ok v ↔
    ∃ w, Padded (Spells nestingLimit) w text.toList ∧ w.canonical = v := by
  simp only [← ofText_eq_ok_iff, propertyOfText]
  cases ofText text <;> simp [Except.map]

/-- No number in the value is a double. -/
inductive FloatFree : Json → Prop
  | null : FloatFree .null
  | bool (b : Bool) : FloatFree (.bool b)
  | int (n : Int) : FloatFree (.num (.int n))
  | str (s : String) : FloatFree (.str s)
  | arr {items : List Json} (inside : ∀ v ∈ items, FloatFree v) : FloatFree (.arr items)
  | obj {members : Members Json} (inside : ∀ m ∈ members, FloatFree m.2) : FloatFree (.obj members)

attribute [simp] FloatFree.null FloatFree.bool FloatFree.int FloatFree.str

@[simp] theorem FloatFree.arr_iff {items : List Json} :
    FloatFree (.arr items) ↔ ∀ v ∈ items, FloatFree v :=
  ⟨fun | .arr inside => inside, .arr⟩

@[simp] theorem FloatFree.obj_iff {members : Members Json} :
    FloatFree (.obj members) ↔ ∀ m ∈ members, FloatFree m.2 :=
  ⟨fun | .obj inside => inside, .obj⟩

/-- Integers in the value have 64 bits, and at most `room` brackets stand inside one another. -/
inductive Fits : Nat → Json → Prop
  | null {room : Nat} : Fits room .null
  | bool {room : Nat} (b : Bool) : Fits room (.bool b)
  | int {room : Nat} {n : Int} (low : -2 ^ 63 ≤ n) (high : n < 2 ^ 64) : Fits room (.num (.int n))
  | float {room : Nat} (x : Float) : Fits room (.num (.float x))
  | str {room : Nat} (s : String) : Fits room (.str s)
  | arr {room : Nat} {items : List Json} (inside : ∀ v ∈ items, Fits room v) :
    Fits (room + 1) (.arr items)
  | obj {room : Nat} {members : Members Json} (inside : ∀ m ∈ members, Fits room m.2) :
    Fits (room + 1) (.obj members)

namespace Fits

variable {room : Nat}

theorem int_iff {n : Int} : Fits room (.num (.int n)) ↔ -2 ^ 63 ≤ n ∧ n < 2 ^ 64 :=
  ⟨fun | .int low high => ⟨low, high⟩, fun h => .int h.1 h.2⟩

theorem arr_iff {items : List Json} : Fits (room + 1) (.arr items) ↔ ∀ v ∈ items, Fits room v :=
  ⟨fun | .arr inside => inside, .arr⟩

theorem obj_iff {members : Members Json} :
    Fits (room + 1) (.obj members) ↔ ∀ m ∈ members, Fits room m.2 :=
  ⟨fun | .obj inside => inside, .obj⟩

end Fits

/-! ### Bounds -/

theorem Scalar.fits {v : Json} {text : List Char} (h : Scalar v text) (room : Nat) : Fits room v := by
  have whole : Nat.pow 2 64 = 18446744073709551616 := rfl
  have half : Nat.pow 2 63 = 9223372036854775808 := rfl
  cases h with
  | null => exact .null
  | yes => exact .bool true
  | no => exact .bool false
  | count fits => exact .int (by omega) (by omega)
  | negative positive fits => exact .int (by omega) (by omega)
  | double => exact .float _
  | str => exact .str _

section

variable {α : Type} {part : α → List Char → Prop} {text : List Char}

theorem Padded.exists_text {a : α} (h : Padded part a text) : ∃ cs, part a cs := by
  obtain ⟨_, spells, _⟩ := h
  exact ⟨_, spells⟩

theorem Separated.exists_text {as : List α} (h : Separated part as text) :
    ∀ a ∈ as, ∃ cs, part a cs := by
  induction h with
  | last spells => exact List.forall_mem_singleton.2 ⟨_, spells⟩
  | more spells _ ih => exact List.forall_mem_cons.2 ⟨⟨_, spells⟩, ih⟩

/-- Each of the things between two brackets has a text of its own. -/
theorem Listed.exists_text {as : List α} (h : Listed part as text) :
    ∀ a ∈ as, ∃ cs, part a cs := by
  cases h with
  | none => exact fun a ha => absurd ha List.not_mem_nil
  | some parts =>
    intro a ha
    obtain ⟨_, padded⟩ := parts.exists_text a ha
    exact padded.exists_text

end

/-- What a text says keeps within the bounds of the reader. -/
theorem Spells.fits {room : Nat} {v : Json} {text : List Char} (h : Spells room v text) :
    Fits room v := by
  induction room generalizing v text with
  | zero => exact Scalar.fits h 0
  | succ room ih =>
    cases h with
    | scalar h => exact h.fits (room + 1)
    | arr listed =>
      refine .arr fun w hw => ?_
      obtain ⟨_, spells⟩ := listed.exists_text w hw
      exact ih spells
    | obj listed =>
      refine .obj fun m hm => ?_
      obtain ⟨_, ⟨_, _, _, spells⟩⟩ := listed.exists_text m hm
      exact ih spells

namespace Fits

variable {room : Nat} {v : Json} (h : Fits room v)

include h

theorem canonical : Fits room v.canonical := by
  induction h with
  | null => exact .null
  | bool b => exact .bool b
  | int low high => exact .int low high
  | float x => exact .float x
  | str s => exact .str s
  | arr _ ih =>
    rw [canonical_arr]
    refine .arr fun w hw => ?_
    obtain ⟨x, hx, rfl⟩ := List.mem_map.1 hw
    exact ih x hx
  | obj _ ih =>
    rw [canonical_obj]
    refine .obj fun m hm => ?_
    obtain ⟨n, hn, rfl⟩ := List.mem_map.1 (Members.mem_sort hm)
    exact ih n hn

/-- Without doubles, what fits can be written and read again. -/
theorem exact (free : v.FloatFree) : Exact room v := by
  induction h with
  | null => exact .null
  | bool b => exact .bool b
  | int low high => exact .int low high
  | float x => cases free
  | str s => exact .str s
  | arr _ ih => exact .arr fun w hw => ih w hw (FloatFree.arr_iff.1 free w hw)
  | obj _ ih => exact .obj fun m hm => ih m hm (FloatFree.obj_iff.1 free m hm)

end Fits

/-! ### Texts -/

section

variable {text : String} {v : Json} (read : propertyOfText text = .ok v)

include read

theorem ordered_of_propertyOfText : v.Ordered := by
  obtain ⟨w, -, rfl⟩ := propertyOfText_eq_ok_iff.1 read
  exact w.ordered_canonical

/-- The text of a property that was read means the property. -/
theorem ofText_compact_of_propertyOfText (free : v.FloatFree) : ofText v.compact = .ok v := by
  obtain ⟨w, said, rfl⟩ := propertyOfText_eq_ok_iff.1 read
  obtain ⟨_, spells⟩ := said.exists_text
  exact ofText_compact_of_exact (spells.fits.canonical.exact free)

theorem propertyOfText_compact (free : v.FloatFree) : propertyOfText v.compact = .ok v := by
  rw [propertyOfText, ofText_compact_of_propertyOfText read free]
  exact congrArg Except.ok (ordered_of_propertyOfText read).canonical_eq

end

theorem string?_canonical (v : Json) : v.canonical.string? = v.string? := by
  cases v <;> rfl

/-- **Texts of properties are canonical.** A property without doubles is read again from its text, in
which nothing is lost of what the first text said; and two such properties have the same text exactly
if the texts that they were read from say the same value, but for blanks, the spelling of characters,
the order of members and members whose key comes again. -/
theorem property_written {text : String} {v : Json} (read : propertyOfText text = .ok v)
    (free : v.FloatFree) :
    propertyOfText v.compact = .ok v ∧
    (∀ w, Padded (Spells nestingLimit) w text.toList →
      w.Same v ∧ v.isTruthy = w.isTruthy ∧ v.string? = w.string?) ∧
    ∀ text' v', propertyOfText text' = .ok v' → v'.FloatFree →
      (v.compact = v'.compact ↔ ∃ w w', Padded (Spells nestingLimit) w text.toList ∧
        Padded (Spells nestingLimit) w' text'.toList ∧ w.Same w') := by
  refine ⟨propertyOfText_compact read free, fun w said => ?_, fun text' v' read' free' => ?_⟩
  · have known : propertyOfText text = .ok w.canonical := propertyOfText_eq_ok_iff.2 ⟨w, said, rfl⟩
    obtain rfl := Except.ok.inj (known.symm.trans read)
    exact ⟨w.same_canonical, isTruthy_canonical w, string?_canonical w⟩
  · obtain ⟨w, said, rfl⟩ := propertyOfText_eq_ok_iff.1 read
    obtain ⟨w', said', rfl⟩ := propertyOfText_eq_ok_iff.1 read'
    constructor
    · intro written
      -- one text cannot be read as two properties
      have again := propertyOfText_compact read free
      rw [written, propertyOfText_compact read' free'] at again
      exact ⟨w, w', said, said', canonical_eq_iff.1 (Except.ok.inj again).symm⟩
    · rintro ⟨u, u', told, told', same⟩
      have one := propertyOfText_eq_ok_iff.2 ⟨u, told, rfl⟩
      have two := propertyOfText_eq_ok_iff.2 ⟨u', told', rfl⟩
      rw [Except.ok.inj (read.symm.trans one), Except.ok.inj (read'.symm.trans two),
        same.canonical_eq]

/-- A value with a key that comes again and with keys out of order. -/
def untidy : Json :=
  .obj [("b", .num (.int 1)),
    ("a", .arr [.str "\"\\\n", .obj [
      ("d", .num (.int (-9223372036854775808))), ("c", .num (.int 18446744073709551615))]]),
    ("b", .null)]

def tidy : Json :=
  .obj [
    ("a", .arr [.str "\"\\\n", .obj [
      ("c", .num (.int 18446744073709551615)), ("d", .num (.int (-9223372036854775808)))]]),
    ("b", .null)]

theorem canonical_untidy : untidy.canonical = tidy := by rfl

theorem property_written_untidy :
    propertyOfText untidy.pretty = .ok tidy ∧ tidy.FloatFree ∧
      propertyOfText tidy.compact = .ok tidy := by
  have exact : Exact nestingLimit untidy := by simp [untidy, nestingLimit]
  have read : propertyOfText untidy.pretty = .ok tidy := by
    have none : Blank "".toList := fun _ h => absurd h List.not_mem_nil
    have said := ofText_pretty_of_exact exact none
    rw [String.append_empty] at said
    rw [propertyOfText, said, ← canonical_untidy]
    rfl
  have free : tidy.FloatFree := by simp [tidy]
  exact ⟨read, free, (property_written read free).1⟩

end WorkflowLint.Json
