import WorkflowLint.Proofs.Json.Layout
import WorkflowLint.Proofs.Json.Reading

/-!
# Reading what was written

The text of a value is a text of that value by the grammar, in whatever layout it was written
(`Layout.spells_text`), so it is read as the value (`Layout.ofText_text`): the two forms of a value mean
the same and no two values have the same text. It takes what the reader takes for granted (`Exact`):
integers of 64 bits, no doubles, and not more brackets inside one another than the reader opens.
-/

set_option autoImplicit false

namespace WorkflowLint.Json

/-! ### Scalars -/

namespace Literal

theorem hexDigit?_digitChar {n : Nat} (h : n < 16) : hexDigit? (Nat.digitChar n) = some n := by
  interval_cases n <;> rfl

/-- A control character is spelled by the digits of its number. -/
theorem spelling_control {c : Char} (h : c.toNat < 32) :
    Spelling c ['\\', 'u', '0', '0', Nat.digitChar (c.toNat / 16), Nat.digitChar (c.toNat % 16)] := by
  have high := hexDigit?_digitChar (show c.toNat / 16 < 16 by omega)
  have low := hexDigit?_digitChar (show c.toNat % 16 < 16 by omega)
  have zero : hexDigit? '0' = some 0 := rfl
  have unit : ((0 * 16 + 0) * 16 + c.toNat / 16) * 16 + c.toNat % 16 = c.toNat := by omega
  have hex := HexUnit.mk zero zero high low
  rw [unit] at hex
  have spelled := Spelling.unit hex (by omega) (by omega)
  rwa [Char.ofNat_toNat] at spelled

/-- Every escape that is written spells its character. -/
theorem spelling_escape (c : Char) : Spelling c (Json.escape c) := by
  unfold Json.escape
  split
  · next quote =>
    obtain rfl := quote
    exact .letter rfl
  split
  · next backslash =>
    obtain rfl := backslash
    exact .letter rfl
  split
  · next backspace =>
    obtain rfl := backspace
    exact .letter rfl
  split
  · next feed =>
    obtain rfl := feed
    exact .letter rfl
  split
  · next newline =>
    obtain rfl := newline
    exact .letter rfl
  split
  · next carriage =>
    obtain rfl := carriage
    exact .letter rfl
  split
  · next tab =>
    obtain rfl := tab
    exact .letter rfl
  split
  · next control => exact spelling_control control
  · next quote backslash _ _ _ _ _ visible => exact .plain quote backslash visible

theorem spells_escapes (chars : List Char) : Spells chars (chars.flatMap Json.escape) := by
  induction chars with
  | nil => exact .nil
  | cons c chars ih => exact .cons (spelling_escape c) ih

end Literal

theorem scalar_renderString (s : String) : Scalar (.str s) (renderString s) :=
  .str (Literal.spells_escapes s.toList)

theorem scalar_renderInt {n : Int} (low : -2 ^ 63 ≤ n) (high : n < 2 ^ 64) :
    Scalar (.num (.int n)) (Number.renderInt n) := by
  have whole : Nat.pow 2 64 = 18446744073709551616 := rfl
  have half : Nat.pow 2 63 = 9223372036854775808 := rfl
  cases n with
  | ofNat n =>
    rw [Int.ofNat_eq_natCast] at high
    exact .count (by omega)
  | negSucc n => exact .negative (Nat.succ_pos n) (by omega)

/-! ### Values -/

/-- Parts with commas between them, as a layout puts them. -/
theorem listed_between {α : Type} {part : α → List Char → Prop} {write : α → List Char}
    {lead close : List Char} (hl : Blank lead) (hc : Blank close) {as : List α}
    (spells : ∀ a ∈ as, part a (write a)) : Listed part as (between lead close (as.map write)) := by
  cases as with
  | nil => exact .none .nil
  | cons a rest =>
    refine .some ?_
    rw [List.map_cons, between, List.flatMap_map]
    induction rest generalizing a with
    | nil => exact .last ⟨hl, spells a List.mem_cons_self, hc⟩
    | cons b rest ih =>
      obtain ⟨first, others⟩ := List.forall_mem_cons.1 spells
      have here : Padded part a (lead ++ (write a ++ [])) := ⟨hl, first, .nil⟩
      rw [List.append_nil] at here
      have whole := Separated.more here (ih b others)
      simpa using whole

/-- The value has no doubles, integers of 64 bits only, and at most `room` brackets inside one
another. -/
inductive Exact : Nat → Json → Prop
  | null {room : Nat} : Exact room .null
  | bool {room : Nat} (b : Bool) : Exact room (.bool b)
  | str {room : Nat} (s : String) : Exact room (.str s)
  | int {room : Nat} {n : Int} (low : -2 ^ 63 ≤ n) (high : n < 2 ^ 64) :
    Exact room (.num (.int n))
  | arr {room : Nat} {items : List Json} (inside : ∀ v ∈ items, Exact room v) :
    Exact (room + 1) (.arr items)
  | obj {room : Nat} {members : Members Json} (inside : ∀ m ∈ members, Exact room m.2) :
    Exact (room + 1) (.obj members)

namespace Exact

variable {room : Nat}

attribute [simp] null bool str

@[simp] theorem int_iff {n : Int} : Exact room (.num (.int n)) ↔ -2 ^ 63 ≤ n ∧ n < 2 ^ 64 :=
  ⟨fun | .int low high => ⟨low, high⟩, fun h => .int h.1 h.2⟩

@[simp] theorem arr_iff {items : List Json} :
    Exact (room + 1) (.arr items) ↔ ∀ v ∈ items, Exact room v :=
  ⟨fun | .arr inside => inside, .arr⟩

@[simp] theorem obj_iff {members : Members Json} :
    Exact (room + 1) (.obj members) ↔ ∀ m ∈ members, Exact room m.2 :=
  ⟨fun | .obj inside => inside, .obj⟩

end Exact

namespace Layout

/-- Nothing but blanks stands between the tokens. -/
structure IsBlank (l : Layout) : Prop where
  line : ∀ depth, Blank (l.line depth)
  gap : Blank l.gap

variable {l : Layout}

theorem member_memberText (blank : l.IsBlank) {inside : Json → List Char → Prop} {depth : Nat}
    {m : String × Json} (spells : inside m.2 (l.text depth m.2)) :
    Member inside m (l.memberText depth m) := by
  have whole := Member.mk (Literal.spells_escapes m.1.toList) .nil blank.gap spells
  simpa [memberText, renderString] using whole

/-- The text of a value is one by the grammar. -/
theorem spells_text (blank : l.IsBlank) {room : Nat} {v : Json} (exact : Exact room v) (depth : Nat) :
    Spells room v (l.text depth v) := by
  induction exact generalizing depth with
  | null => exact .scalar .null _
  | bool b =>
    cases b with
    | true => exact .scalar .yes _
    | false => exact .scalar .no _
  | str s => exact .scalar (scalar_renderString s) _
  | int low high => exact .scalar (scalar_renderInt low high) _
  | @arr room items _ ih =>
    rw [text_arr]
    exact Bracketed.arr (listed_between (blank.line (depth + 1)) (blank.line depth)
      fun v hv => ih v hv (depth + 1))
  | @obj room members _ ih =>
    rw [text_obj]
    exact Bracketed.obj (listed_between (blank.line (depth + 1)) (blank.line depth)
      fun m hm => member_memberText blank (ih m hm (depth + 1)))

theorem isBlank_compact : compact.IsBlank :=
  ⟨fun _ _ h => absurd h List.not_mem_nil, fun _ h => absurd h List.not_mem_nil⟩

theorem isBlank_pretty : pretty.IsBlank := by
  constructor
  · intro depth c hc
    rcases List.mem_cons.1 hc with rfl | hc
    · rfl
    · rw [List.eq_of_mem_replicate hc]
      rfl
  · intro c hc
    rw [List.mem_singleton.1 hc]
    rfl

/-- A text with nothing but blanks behind it means the value that it was written for. -/
theorem ofText_text (blank : l.IsBlank) {v : Json} (exact : Exact nestingLimit v) (depth : Nat)
    {trail : List Char} (blanks : Blank trail) :
    ofText (String.ofList (l.text depth v ++ trail)) = .ok v := by
  rw [ofText_eq_ok_iff, String.toList_ofList]
  exact .mk .nil (spells_text blank exact depth) blanks

end Layout

theorem Exact.mono {room room' : Nat} {v : Json} (exact : Exact room v) (h : room ≤ room') :
    Exact room' v := by
  induction exact generalizing room' with
  | null => exact .null
  | bool b => exact .bool b
  | str s => exact .str s
  | int low high => exact .int low high
  | arr _ ih =>
    obtain ⟨room', rfl⟩ := Nat.exists_eq_add_one.2 (Nat.zero_lt_of_lt h)
    exact .arr fun v hv => ih v hv (Nat.le_of_succ_le_succ h)
  | obj _ ih =>
    obtain ⟨room', rfl⟩ := Nat.exists_eq_add_one.2 (Nat.zero_lt_of_lt h)
    exact .obj fun m hm => ih m hm (Nat.le_of_succ_le_succ h)

section

variable {v : Json} (exact : Exact nestingLimit v)

include exact

/-- The compact form of a value means the value. -/
theorem ofText_compact_of_exact : ofText v.compact = .ok v := by
  have read := Layout.ofText_text Layout.isBlank_compact exact 0 fun _ h =>
    absurd h List.not_mem_nil
  rwa [List.append_nil, ← render_eq_text] at read

/-- The pretty form of a value means the value, with or without blanks behind it. -/
theorem ofText_pretty_of_exact {trail : String} (blanks : Blank trail.toList) :
    ofText (v.pretty ++ trail) = .ok v := by
  have read := Layout.ofText_text Layout.isBlank_pretty exact 0 blanks
  rwa [← renderPretty_eq_text, String.ofList_append, String.ofList_toList] at read

end

end WorkflowLint.Json
