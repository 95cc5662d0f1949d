import WorkflowLint.Json.Record
import WorkflowLint.Proofs.Json.Reading

/-!
# What the reader of a record accepts

The reader of a record stops at the first fault, be it one of the syntax or one of the fields. What it
accepts is told by the grammar of values all the same (`read_takes`): the texts of objects whose members
are fields that hold what they should, none twice, and the texts of lists that give the first fields
their values.
-/

set_option autoImplicit false

namespace WorkflowLint.Json

namespace Record

open Reader

/-- The value is of the kind. -/
def Kind.Holds : Kind → Json → Prop
  | .count, v => ∃ n : Nat, v = .num (.int n)
  | .text, v => ∃ s, v = .str s
  | .texts, v => ∃ ss : List String, v = .arr (ss.map .str)

theorem refuseCount_eq_none {v : Json} : refuseCount v = none ↔ Kind.count.Holds v := by
  cases v with
  | num x =>
    cases x with
    | int k =>
      simp only [refuseCount, ite_eq_right_iff, reduceCtorEq, imp_false, Kind.Holds, num.injEq,
        Number.int.injEq]
      exact ⟨fun h => ⟨k.toNat, by omega⟩, fun ⟨n, hn⟩ => by omega⟩
    | float x => simp [refuseCount, Kind.Holds]
  | _ => simp [refuseCount, Kind.Holds]

theorem refuseText_eq_none {v : Json} : refuseText v = none ↔ Kind.text.Holds v := by
  cases v <;> simp [refuseText, Kind.Holds]

theorem scalarUnless_takes (bound : Nat) (refuse : Json → Option Fault) :
    Takes bound (scalarUnless bound refuse) fun v text => refuse v = none ∧ Scalar v text where
  sound {cs rest v} h := by
    unfold scalarUnless at h
    split at h
    · cases h
    next c tail found =>
    obtain ⟨-, run, blank, rfl⟩ := exists_of_skip found
    split at h
    · cases h
    · simp only [bind_eq_ok, Prod.exists] at h
      obtain ⟨w, rest', read, h⟩ := h
      split at h
      · cases h
      · next fine =>
        obtain ⟨rfl, rfl⟩ := Prod.mk.inj (Except.ok.inj h)
        obtain ⟨text, spells, whole⟩ := exists_of_scalar read
        exact ⟨run, text, blank, ⟨fine, spells⟩, by rw [whole]⟩
  complete {run text rest v} blank part enough ends := by
    obtain ⟨fine, spells⟩ := part
    have read := scalar_of_spells spells ends enough
    obtain ⟨c, tail, rfl, bare⟩ := spells.exists_cons
    have other : opening? c = none := by rw [opening?, if_neg bare.list, if_neg bare.object]
    rw [List.cons_append] at read ⊢
    rw [scalarUnless, skip_append blank, skip_cons bare.visible]
    simp only [other, read, bind, Except.bind, fine]
    rfl
  starts part := Spells.starts (Spells.scalar part.2 0)

/-! ### Values of a kind -/

theorem follows_and {α : Type} {p : α → Prop} {part : α → List Char → Prop}
    {lead : List Char → Prop} {as : List α} {text : List Char} :
    Follows (fun a text => p a ∧ part a text) lead as text ↔
      (∀ a ∈ as, p a) ∧ Follows part lead as text := by
  constructor
  · intro h
    induction h with
    | none blank => exact ⟨by simp, .none blank⟩
    | some first spells _ ih =>
      exact ⟨List.forall_mem_cons.2 ⟨spells.1, ih.1⟩, .some first spells.2 ih.2⟩
  · rintro ⟨all, h⟩
    induction h with
    | none blank => exact .none blank
    | some first spells _ ih =>
      obtain ⟨here, others⟩ := List.forall_mem_cons.1 all
      exact .some first ⟨here, spells⟩ (ih others)

theorem spells_iff_scalar {room : Nat} {v : Json} {text : List Char} (list : ∀ items, v ≠ .arr items)
    (object : ∀ members, v ≠ .obj members) : Spells room v text ↔ Scalar v text := by
  refine ⟨fun h => ?_, fun h => .scalar h room⟩
  cases room with
  | zero => exact h
  | succ room =>
    cases h with
    | scalar h => exact h
    | arr => exact absurd rfl (list _)
    | obj => exact absurd rfl (object _)

/-- A count is written in decimal digits: there is no sign, no fraction and no exponent, and the number
has 64 bits. -/
theorem spells_count_iff {room n : Nat} {text : List Char} :
    Spells room (.num (.int n)) text ↔ n < Nat.pow 2 64 ∧ text = Nat.toDigits 10 n := by
  rw [spells_iff_scalar (by simp) (by simp)]
  constructor
  · intro h
    generalize said : Json.num (.int n) = v at h
    cases h with
    | count fits =>
      obtain rfl := Int.ofNat_inj.1 (Number.int.inj (num.inj said))
      exact ⟨fits, rfl⟩
    | negative positive _ =>
      have same := Number.int.inj (num.inj said)
      omega
    | double => cases said
    | _ => cases said
  · rintro ⟨fits, rfl⟩
    exact .count fits

theorem holds_texts_iff {items : List Json} :
    Kind.texts.Holds (.arr items) ↔ ∀ v ∈ items, Kind.text.Holds v := by
  constructor
  · rintro ⟨ss, e⟩ v hv
    rw [arr.inj e] at hv
    obtain ⟨s, -, rfl⟩ := List.mem_map.1 hv
    exact ⟨s, rfl⟩
  · intro all
    induction items with
    | nil => exact ⟨[], rfl⟩
    | cons v items ih =>
      obtain ⟨⟨s, rfl⟩, others⟩ := List.forall_mem_cons.1 all
      obtain ⟨ss, e⟩ := ih others
      exact ⟨s :: ss, by rw [arr.inj e, List.map_cons]⟩

theorem count_takes (bound room : Nat) : Takes bound (Kind.count.read bound) fun v text =>
    Kind.count.Holds v ∧ Spells room v text := by
  refine (scalarUnless_takes bound refuseCount).congr fun v text => ?_
  rw [refuseCount_eq_none]
  refine and_congr_right ?_
  rintro ⟨n, rfl⟩
  exact (spells_iff_scalar (by simp) (by simp)).symm

theorem text_takes (bound room : Nat) : Takes bound (Kind.text.read bound) fun v text =>
    Kind.text.Holds v ∧ Spells room v text := by
  refine (scalarUnless_takes bound refuseText).congr fun v text => ?_
  rw [refuseText_eq_none]
  refine and_congr_right ?_
  rintro ⟨s, rfl⟩
  exact (spells_iff_scalar (by simp) (by simp)).symm

theorem scalarUnless_refuseAll {bound : Nat} {expected : String} {cs : List Char}
    {result : Json × List Char} : scalarUnless bound (refuseAll expected) cs ≠ .ok result := by
  intro h
  obtain ⟨_, _, _, ⟨fine, _⟩, _⟩ := (scalarUnless_takes bound (refuseAll expected)).sound h
  cases fine

theorem texts_takes (bound room : Nat) : Takes bound (Kind.texts.read bound) fun v text =>
    Kind.texts.Holds v ∧ Spells (room + 1) v text where
  sound {cs rest v} h := by
    unfold Kind.read at h
    dsimp only at h
    split at h
    · next tail found =>
      obtain ⟨-, run, blank, rfl⟩ := exists_of_skip found
      obtain ⟨⟨vs, rest'⟩, read, e⟩ := map_eq_ok.1 h
      obtain ⟨rfl, rfl⟩ := Prod.mk.inj e
      obtain ⟨text, items, rfl⟩ := exists_of_list (text_takes bound room) read
      obtain ⟨strings, items⟩ := follows_and.1 items
      exact ⟨run, _, blank, ⟨holds_texts_iff.2 strings, .arr (listed_iff.2 items)⟩, by simp⟩
    · exact absurd h scalarUnless_refuseAll
  complete {run text rest v} blank part enough ends := by
    obtain ⟨⟨ss, rfl⟩, spells⟩ := part
    obtain _ | @⟨_, text, listed⟩ := spells
    · next scalar => cases scalar
    have strings : Kind.texts.Holds (.arr (ss.map .str)) := ⟨ss, rfl⟩
    have items := follows_and.2 ⟨holds_texts_iff.1 strings, listed_iff.1 listed⟩
    simp only [List.length_cons, List.length_append] at enough
    have read : list bound (scalarUnless bound refuseText) (text ++ ']' :: rest) =
        .ok (ss.map .str, rest) :=
      list_of_follows (text_takes bound room) items (by omega) rest
    have found := skip_bracketed blank (show isBlank '[' = false by decide) text ']' rest
    unfold Kind.read
    dsimp only
    rw [found]
    show (list bound (scalarUnless bound refuseText) (text ++ ']' :: rest)).map _ = _
    rw [read]
    rfl
  starts part := part.2.starts

/-- The reader of a kind takes the texts of the values of that kind. -/
theorem Kind.read_takes (bound room : Nat) (kind : Kind) :
    Takes bound (kind.read bound) fun v text => kind.Holds v ∧ Spells (room + 1) v text :=
  match kind with
  | .count => count_takes bound (room + 1)
  | .text => text_takes bound (room + 1)
  | .texts => texts_takes bound room

/-! ### Records as objects -/

section

variable {fields : List (String × Kind)} {bound room : Nat}

/-- The member is a field that the record has and that has not been seen, and it holds what it
should. -/
def Fresh (fields : List (String × Kind)) (seen : List String) (m : String × Json) : Prop :=
  m.1 ∉ seen ∧ ∃ kind, fields.lookup m.1 = some kind ∧ kind.Holds m.2

theorem each_fresh_iff {seen : List String} {ms : Members Json} :
    Each (Fresh fields) seen ms ↔ (ms.map Prod.fst).Nodup ∧ (∀ m ∈ ms, m.1 ∉ seen) ∧
      ∀ m ∈ ms, ∃ kind, fields.lookup m.1 = some kind ∧ kind.Holds m.2 := by
  induction ms generalizing seen with
  | nil => simp [Each.nil]
  | cons m ms ih =>
    rw [Each.cons_iff, ih, List.map_cons, List.nodup_cons, List.forall_mem_cons, List.forall_mem_cons]
    have apart : m.1 ∉ ms.map Prod.fst ↔ ∀ n ∈ ms, n.1 ≠ m.1 := by
      simp only [List.mem_map, not_exists, not_and]
    simp only [Fresh, apart, List.mem_cons, not_or]
    grind

theorem field_takes : TakesMembers bound (field bound fields) (Fresh fields) (Spells (room + 1)) where
  sound {seen cs rest m} h := by
    simp only [field, bind_eq_ok, Prod.exists] at h
    obtain ⟨key, cs', read, h⟩ := h
    split at h
    · cases h
    next kind known =>
    split at h
    · cases h
    next fresh =>
    simp only [bind_eq_ok, Prod.exists] at h
    obtain ⟨cs'', mark, v, rest', inner, h⟩ := h
    obtain ⟨rfl, rfl⟩ := Prod.mk.inj (Except.ok.inj h)
    obtain ⟨name, chars, rfl⟩ := Literal.exists_of_read read
    obtain ⟨gap, blank, rfl⟩ := colon_eq_ok.1 mark
    obtain ⟨gap', text, blank', ⟨holds, spells⟩, rfl⟩ := (kind.read_takes bound room).sound inner
    exact ⟨⟨fresh, kind, known, holds⟩, _, .mk chars blank blank' spells, by simp⟩
  complete {seen text rest m} fresh spells enough ends := by
    obtain @⟨key, v, name, gap, gap', text, chars, blank, blank', spells⟩ := spells
    obtain ⟨unseen, kind, known, holds⟩ := fresh
    simp only [List.length_append, List.length_cons] at enough
    have read := Literal.read_of_spells chars (gap ++ ':' :: (gap' ++ (text ++ rest)))
      (show name.length < bound by omega)
    have mark : colon (gap ++ ':' :: (gap' ++ (text ++ rest))) = .ok (gap' ++ (text ++ rest)) :=
      colon_eq_ok.2 ⟨gap, blank, rfl⟩
    have inner := (kind.read_takes bound room).complete blank' ⟨holds, spells⟩ (by omega) ends
    dsimp only at unseen known
    simp only [List.append_assoc, List.cons_append, field, read, bind, Except.bind, known,
      if_neg unseen, mark, inner]
    rfl

/-! ### Records as lists -/

/-- The members give the first fields, in their order, what they should hold. -/
inductive Fits : List (String × Kind) → Members Json → Prop
  | ends {fields : List (String × Kind)} : Fits fields []
  | field {name : String} {kind : Kind} {v : Json} {fields : List (String × Kind)}
      {ms : Members Json} (holds : kind.Holds v) (behind : Fits fields ms) :
    Fits ((name, kind) :: fields) ((name, v) :: ms)

/-- With fields of different names, members fit if they have the names of the first fields. -/
theorem fits_iff {fields : List (String × Kind)} {ms : Members Json}
    (distinct : (fields.map Prod.fst).Nodup) : Fits fields ms ↔
      ms.map Prod.fst <+: fields.map Prod.fst ∧
        ∀ m ∈ ms, ∃ kind, fields.lookup m.1 = some kind ∧ kind.Holds m.2 := by
  induction fields generalizing ms with
  | nil =>
    constructor
    · rintro ⟨⟩
      simp
    · rintro ⟨names, -⟩
      obtain rfl := List.map_eq_nil_iff.1 (List.prefix_nil.1 names)
      exact .ends
  | cons field fields ih =>
    obtain ⟨name, kind⟩ := field
    obtain ⟨new, apart⟩ := List.nodup_cons.1 distinct
    -- a later member is not the first field
    have later {ms : Members Json} (names : ms.map Prod.fst <+: fields.map Prod.fst) :
        ∀ m ∈ ms, ((name, kind) :: fields).lookup m.1 = fields.lookup m.1 := by
      intro m hm
      have other : m.1 ≠ name := by
        rintro rfl
        exact new (names.subset (List.mem_map_of_mem hm))
      rw [lookup_cons_ite, if_neg other]
    constructor
    · intro fits
      cases fits with
      | ends => simp
      | @field _ _ v _ ms holds behind =>
        obtain ⟨names, known⟩ := (ih apart).1 behind
        refine ⟨List.cons_prefix_cons.2 ⟨rfl, names⟩, List.forall_mem_cons.2 ⟨?_, fun m hm => ?_⟩⟩
        · exact ⟨kind, List.lookup_cons_self, holds⟩
        · rw [later names m hm]
          exact known m hm
    · rintro ⟨names, known⟩
      cases ms with
      | nil => exact .ends
      | cons m ms =>
        obtain ⟨key, v⟩ := m
        obtain ⟨rfl, names'⟩ := List.cons_prefix_cons.1 names
        obtain ⟨⟨kind', here, holds⟩, others⟩ := List.forall_mem_cons.1 known
        rw [List.lookup_cons_self] at here
        obtain rfl := Option.some.inj here
        refine .field holds ((ih apart).2 ⟨names', fun m hm => ?_⟩)
        rw [← later names' m hm]
        exact others m hm

theorem closeList_eq_ok {cs rest : List Char} :
    closeList cs = .ok rest ↔ ∃ run, Blank run ∧ cs = run ++ ']' :: rest := by
  constructor
  · intro h
    unfold closeList at h
    split at h
    · cases h
    · next found =>
      obtain ⟨-, run, blank, rfl⟩ := exists_of_skip found
      obtain rfl := Except.ok.inj h
      exact ⟨run, blank, rfl⟩
    · split at h <;> cases h
    · cases h
  · rintro ⟨run, blank, rfl⟩
    rw [closeList, skip_append blank, skip_cons (by decide)]
    rfl

/-- `next` tells a list that ends here from one that goes on behind a `lead`. -/
structure Tells (next : List Char → Except Stop (Bool × List Char)) (lead : List Char → Prop) :
    Prop where
  closes {cs rest : List Char} :
    next cs = .ok (false, rest) ↔ ∃ run, Blank run ∧ cs = run ++ ']' :: rest
  goesOn {cs rest : List Char} :
    next cs = .ok (true, rest) ↔ Starts rest ∧ ∃ front, lead front ∧ cs = front ++ rest
  append {front run : List Char} (leads : lead front) (blank : Blank run) : lead (front ++ run)

theorem tells_firstItem : Tells firstItem Blank :=
  ⟨firstItem_eq_false, firstItem_eq_true, Blank.append⟩

theorem tells_nextItem : Tells nextItem Comma :=
  ⟨nextItem_eq_false, nextItem_eq_true, Comma.append⟩

section

variable {next : List Char → Except Stop (Bool × List Char)} {lead : List Char → Prop}

/-- The list gives the first of the fields. -/
theorem exists_of_positional (tells : Tells next lead) {ms : Members Json} {cs rest : List Char}
    (h : positional bound next fields cs = .ok (ms, rest)) :
    Fits fields ms ∧
      ∃ text, Follows (Spells (room + 1)) lead (ms.map Prod.snd) text ∧ cs = text ++ ']' :: rest := by
  induction fields generalizing next lead ms cs with
  | nil =>
    simp only [positional, bind_eq_ok] at h
    obtain ⟨rest', close, h⟩ := h
    obtain ⟨rfl, rfl⟩ := Prod.mk.inj (Except.ok.inj h)
    obtain ⟨run, blank, rfl⟩ := closeList_eq_ok.1 close
    exact ⟨.ends, run, .none blank, rfl⟩
  | cons field fields ih =>
    obtain ⟨name, kind⟩ := field
    simp only [positional, bind_eq_ok, Prod.exists] at h
    obtain ⟨more, cs', told, h⟩ := h
    cases more with
    | false =>
      obtain ⟨run, blank, rfl⟩ := tells.closes.1 told
      obtain ⟨rfl, rfl⟩ := Prod.mk.inj (Except.ok.inj h)
      exact ⟨.ends, run, .none blank, rfl⟩
    | true =>
      obtain ⟨-, front, leads, rfl⟩ := tells.goesOn.1 told
      simp only [if_true, bind_eq_ok, Prod.exists] at h
      obtain ⟨v, cs'', first, ms', rest', others, h⟩ := h
      obtain ⟨rfl, rfl⟩ := Prod.mk.inj (Except.ok.inj h)
      obtain ⟨run, text, blank, ⟨holds, spells⟩, rfl⟩ := (kind.read_takes bound room).sound first
      obtain ⟨fits, behind, later, rfl⟩ := ih tells_nextItem others
      exact ⟨.field holds fits, _, .some (tells.append leads blank) spells later, by simp⟩

theorem positional_of_follows (tells : Tells next lead) {ms : Members Json} {text : List Char}
    (fits : Fits fields ms) (h : Follows (Spells (room + 1)) lead (ms.map Prod.snd) text)
    (enough : text.length < bound) (rest : List Char) :
    positional bound next fields (text ++ ']' :: rest) = .ok (ms, rest) := by
  induction fits generalizing next lead text with
  | @ends fields =>
    obtain blank | _ := h
    cases fields with
    | nil =>
      have close : closeList (text ++ ']' :: rest) = .ok rest :=
        closeList_eq_ok.2 ⟨text, blank, rfl⟩
      simp only [positional, close, bind, Except.bind]
      rfl
    | cons field fields =>
      have close : next (text ++ ']' :: rest) = .ok (false, rest) :=
        tells.closes.2 ⟨text, blank, rfl⟩
      simp only [positional, close, bind, Except.bind]
      rfl
  | @field name kind v fields ms holds _ ih =>
    obtain _ | @⟨_, _, _, front, text, tail, leads, spells, behind⟩ := h
    simp only [List.length_append] at enough
    have told : next (front ++ (text ++ (tail ++ ']' :: rest))) =
        .ok (true, text ++ (tail ++ ']' :: rest)) :=
      tells.goesOn.2 ⟨(Spells.starts spells).append _, front, leads, rfl⟩
    have first : kind.read bound (text ++ (tail ++ ']' :: rest)) = .ok (v, tail ++ ']' :: rest) :=
      (kind.read_takes bound room).complete .nil ⟨holds, spells⟩ (by omega)
        (behind.numeralEnds (by decide) rest)
    have others := ih tells_nextItem behind (by omega)
    simp only [List.append_assoc, positional, told, bind, Except.bind, if_true, first, others]
    rfl

end

/-- A record and its texts: an object of fields, none twice, or a list of the first fields. -/
inductive Gives (room : Nat) (fields : List (String × Kind)) (ms : Members Json) (text : List Char) :
    Prop
  | named (distinct : (ms.map Prod.fst).Nodup)
      (known : ∀ m ∈ ms, ∃ kind, fields.lookup m.1 = some kind ∧ kind.Holds m.2)
      (spells : Spells room (.obj ms) text) : Gives room fields ms text
  | inOrder (fits : Fits fields ms) (spells : Spells room (.arr (ms.map Prod.snd)) text) :
    Gives room fields ms text

/-- The reader of a record takes the texts of the record. -/
theorem read_takes (expected : String) (bound room : Nat) :
    Takes bound (read expected fields bound) (Gives (room + 2) fields) where
  sound {cs rest ms} h := by
    unfold read at h
    split at h
    · next tail found =>
      obtain ⟨-, run, blank, rfl⟩ := exists_of_skip found
      obtain ⟨fits, text, items, rfl⟩ := exists_of_positional tells_firstItem h
      exact ⟨run, _, blank, .inOrder fits (.arr (listed_iff.2 items)), by simp⟩
    · next tail found =>
      obtain ⟨-, run, blank, rfl⟩ := exists_of_skip found
      obtain ⟨each, text, members, rfl⟩ := exists_of_object field_takes h
      obtain ⟨distinct, -, known⟩ := each_fresh_iff.1 each
      exact ⟨run, _, blank, .named distinct known (.obj (listed_iff.2 members)), by simp⟩
    · obtain ⟨result, read, -⟩ := map_eq_ok.1 h
      exact absurd read scalarUnless_refuseAll
  complete {run text rest ms} blank gives enough ends := by
    cases gives with
    | named distinct known spells =>
      obtain ⟨⟨⟩⟩ | _ | @⟨_, text, listed⟩ := spells
      have found := skip_bracketed blank (show isBlank '\x7b' = false by decide) text '\x7d' rest
      have each : Each (Fresh fields) [] ms := each_fresh_iff.2 ⟨distinct, by simp, known⟩
      simp only [List.length_cons, List.length_append] at enough
      rw [read, found]
      exact object_of_follows field_takes each (listed_iff.1 listed) (by omega) rest
    | inOrder fits spells =>
      obtain ⟨⟨⟩⟩ | @⟨_, text, listed⟩ | _ := spells
      have found := skip_bracketed blank (show isBlank '[' = false by decide) text ']' rest
      simp only [List.length_cons, List.length_append] at enough
      rw [read, found]
      exact positional_of_follows tells_firstItem fits (listed_iff.1 listed) (by omega) rest
  starts gives := by
    cases gives with
    | named _ _ spells => exact spells.starts
    | inOrder _ spells => exact spells.starts

end

end Record

end WorkflowLint.Json
