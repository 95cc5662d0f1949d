import WorkflowLint.Json.Writer
import WorkflowLint.Proofs.Json.Settled
import WorkflowLint.Proofs.Markup.Lines

/-!
# Values without line feeds

A value is `Unbroken` if no text and no key in it has a line feed. What is found in such a value is
unbroken again, and every value, broken or not, has a compact form on one line (`oneLine_compact`).
-/

set_option autoImplicit false

namespace WorkflowLint

open Markup

/-! ### Compact forms -/

namespace Number

theorem not_mem_toDigits (n : Nat) : '\n' ∉ Nat.toDigits 10 n := fun mem =>
  absurd (Nat.isDigit_of_mem_toDigits (by decide) (by decide) mem) (by decide)

theorem not_mem_decimal (d : Decimal) : '\n' ∉ d.render := by
  have digits := not_mem_toDigits d.digits
  have zeros (n : Nat) : '\n' ∉ List.replicate n '0' := fun mem =>
    absurd (List.eq_of_mem_replicate mem) (by decide)
  have front (n : Nat) : '\n' ∉ (Nat.toDigits 10 d.digits).take n :=
    fun mem => digits (List.mem_of_mem_take mem)
  have back (n : Nat) : '\n' ∉ (Nat.toDigits 10 d.digits).drop n :=
    fun mem => digits (List.mem_of_mem_drop mem)
  unfold Decimal.render
  dsimp only
  split
  · split
    · simp [digits, zeros]
    · simp [front, back]
  · split
    · simp [digits, zeros]
    · have power := not_mem_toDigits ((Nat.toDigits 10 d.digits).length + d.exponent - 1).natAbs
      simp only [List.mem_append, List.mem_cons, not_or]
      refine ⟨⟨front 1, ?_⟩, by decide, ?_, power⟩
      · split
        · exact List.not_mem_nil
        · exact List.not_mem_cons_of_ne_of_not_mem (by decide) (back 1)
      · split <;> decide

theorem not_mem_render (n : Number) : '\n' ∉ n.render := by
  cases n with
  | int value =>
    cases value with
    | ofNat n => exact not_mem_toDigits n
    | negSucc n => exact List.not_mem_cons_of_ne_of_not_mem (by decide) (not_mem_toDigits _)
  | float x =>
    rw [render, renderFloat, List.mem_append, not_or]
    constructor
    · split <;> decide
    · split
      · decide
      · exact not_mem_decimal _

end Number

namespace Json

/-- A line feed is written as an escape. -/
theorem not_mem_escape (c : Char) : '\n' ∉ escape c := by
  by_cases feed : c = '\n'
  · subst feed
    decide
  · have hex : ∀ n < 16, '\n' ≠ Nat.digitChar n := by decide
    unfold escape
    repeat' split
    any_goals decide
    · have high := hex (c.toNat / 16) (by omega)
      have low := hex (c.toNat % 16) (by omega)
      simp [high, low]
    · exact fun mem => feed (List.mem_singleton.1 mem).symm

theorem not_mem_renderString (s : String) : '\n' ∉ renderString s := by
  simp only [renderString, List.mem_append, List.mem_cons, List.mem_flatMap, not_or]
  refine ⟨⟨by decide, ?_⟩, by decide, List.not_mem_nil⟩
  rintro ⟨c, -, mem⟩
  exact not_mem_escape c mem

theorem not_mem_renderItems {items : List Json} (h : ∀ v ∈ items, '\n' ∉ v.render) :
    '\n' ∉ renderItems items := by
  induction items with
  | nil => exact List.not_mem_nil
  | cons v rest ih =>
    obtain ⟨here, others⟩ := List.forall_mem_cons.1 h
    simp [renderItems, here, ih others]

theorem not_mem_renderMembers {members : Members Json} (h : ∀ m ∈ members, '\n' ∉ m.2.render) :
    '\n' ∉ renderMembers members := by
  induction members with
  | nil => exact List.not_mem_nil
  | cons m rest ih =>
    obtain ⟨here, others⟩ := List.forall_mem_cons.1 h
    simp [renderMembers, not_mem_renderString, here, ih others]

theorem not_mem_render (v : Json) : '\n' ∉ v.render := by
  induction v using Json.induction with
  | null => decide
  | bool b => cases b <;> decide
  | num n => exact n.not_mem_render
  | str s => exact not_mem_renderString s
  | arr items inside =>
    cases items with
    | nil => decide
    | cons v rest =>
      obtain ⟨here, others⟩ := List.forall_mem_cons.1 inside
      simp [render, here, not_mem_renderItems others]
  | obj members inside =>
    cases members with
    | nil => decide
    | cons m rest =>
      obtain ⟨here, others⟩ := List.forall_mem_cons.1 inside
      simp [render, not_mem_renderString, here, not_mem_renderMembers others]

/-- The compact form of a value has no line feed, whatever its texts have. -/
theorem oneLine_compact (v : Json) : OneLine v.compact := by
  rw [OneLine, toList_compact]
  exact v.not_mem_render

/-! ### Unbroken values -/

/-- An item of a list that may be missing. -/
theorem exists_of_mem_getD {α : Type} {list : Option (List α)} {a : α} (h : a ∈ list.getD []) :
    ∃ items, list = some items ∧ a ∈ items := by
  cases list with
  | none => cases h
  | some items => exact ⟨items, rfl, h⟩

/-- No text and no key in the value has a line feed. -/
inductive Unbroken : Json → Prop
  | null : Unbroken null
  | bool (b : Bool) : Unbroken (bool b)
  | num (n : Number) : Unbroken (num n)
  | str {s : String} (text : OneLine s) : Unbroken (str s)
  | arr {items : List Json} (inside : ∀ v ∈ items, Unbroken v) : Unbroken (arr items)
  | obj {members : Members Json} (keys : ∀ m ∈ members, OneLine m.1)
    (inside : ∀ m ∈ members, Unbroken m.2) : Unbroken (obj members)

@[simp] theorem unbroken_bool (b : Bool) : (bool b).Unbroken := .bool b

@[simp] theorem unbroken_str {s : String} : (str s).Unbroken ↔ OneLine s :=
  ⟨fun h => by cases h; assumption, .str⟩

@[simp] theorem unbroken_arr {items : List Json} :
    (arr items).Unbroken ↔ ∀ v ∈ items, v.Unbroken :=
  ⟨fun h => by cases h; assumption, .arr⟩

@[simp] theorem unbroken_obj {members : Members Json} :
    (obj members).Unbroken ↔ ∀ m ∈ members, OneLine m.1 ∧ m.2.Unbroken := by
  constructor
  · rintro ⟨⟩ m mem
    exact ⟨‹∀ m ∈ members, OneLine m.1› m mem, ‹∀ m ∈ members, m.2.Unbroken› m mem⟩
  · exact fun h => .obj (fun m mem => (h m mem).1) fun m mem => (h m mem).2

namespace Unbroken

variable {v w : Json}

theorem settle (h : v.Unbroken) : v.settle.Unbroken := by
  induction h with
  | str text => exact .str text
  | arr _ inside =>
    rw [settle_arr]
    refine .arr fun w mem => ?_
    obtain ⟨x, here, rfl⟩ := List.mem_map.1 mem
    exact inside x here
  | obj keys _ inside =>
    rw [settle_obj]
    constructor
    · intro m mem
      obtain ⟨n, here, rfl⟩ := List.mem_map.1 (Members.mem_settle mem)
      exact keys n here
    · intro m mem
      obtain ⟨n, here, rfl⟩ := List.mem_map.1 (Members.mem_settle mem)
      exact inside n here
  | null => exact .null
  | bool b => exact .bool b
  | num n => exact .num n

theorem get? (h : v.Unbroken) {key : String} (found : v.get? key = some w) : w.Unbroken := by
  obtain ⟨members, rfl, mem⟩ := mem_of_get?_eq_some found
  cases h with
  | obj _ inside => exact inside _ mem

theorem items? (h : v.Unbroken) {items : List Json} (list : v.items? = some items) :
    ∀ x ∈ items, x.Unbroken := by
  rw [items?_eq_some_iff.1 list] at h
  cases h with
  | arr inside => exact inside

theorem itemsAt (h : v.Unbroken) (key : String) : ∀ x ∈ v.itemsAt key, x.Unbroken := by
  intro x mem
  obtain ⟨items, list, mem⟩ := exists_of_mem_getD mem
  obtain ⟨w, found, items?⟩ := Option.bind_eq_some_iff.1 list
  exact (h.get? found).items? items? x mem

end Unbroken

end Json

end WorkflowLint
