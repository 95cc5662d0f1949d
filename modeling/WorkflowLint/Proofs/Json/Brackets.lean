import WorkflowLint.Proofs.Json.Scalars

/-!
# Reading between brackets

A scan `Takes` the texts of a thing if it succeeds on them, whatever stands behind that ends a numeral,
and on no other. If the scan of an item takes the texts of an item, then the one of a list takes the
texts of a list (`exists_of_list`, `list_of_follows`), and likewise for objects, where a member can be
refused for the keys before it (`exists_of_object`, `object_of_follows`).

The grammar puts commas between texts, but the loops see a text from the front: an item, then what
`Follows` it up to the bracket. The two are the same (`listed_iff`).
-/

set_option autoImplicit false

namespace WorkflowLint.Json

theorem NumeralEnds.nil : NumeralEnds [] := fun _ h => nomatch h

/-- A bracket, a comma or a blank ends a numeral. -/
theorem NumeralEnds.cons {c : Char} (h : c ∈ [' ', '\t', '\n', '\r', ',', ']', '\x7d'])
    (rest : List Char) : NumeralEnds (c :: rest) := by
  intro d hd
  obtain rfl := Option.some.inj hd
  revert h
  simp only [List.mem_cons, List.not_mem_nil, or_false]
  rintro (rfl | rfl | rfl | rfl | rfl | rfl | rfl) <;> decide

theorem NumeralEnds.append {run cs : List Char} (blank : Blank run) (ends : NumeralEnds cs) :
    NumeralEnds (run ++ cs) := by
  cases run with
  | nil => exact ends
  | cons c rest =>
    have here := blank c List.mem_cons_self
    simp only [Reader.isBlank, Bool.or_eq_true, beq_iff_eq] at here
    refine NumeralEnds.cons ?_ (rest ++ cs)
    simp only [List.mem_cons]
    grind

theorem Blank.nil : Blank [] := fun _ h => absurd h List.not_mem_nil

theorem Blank.append {run run' : List Char} (blank : Blank run) (blank' : Blank run') :
    Blank (run ++ run') :=
  List.forall_mem_append.2 ⟨blank, blank'⟩

namespace Reader

/-! ### Blanks -/

theorem skip_append {run : List Char} (blank : Blank run) (cs : List Char) :
    skip (run ++ cs) = skip cs :=
  List.dropWhile_append_of_pos blank

theorem skip_cons {c : Char} (h : isBlank c = false) (rest : List Char) :
    skip (c :: rest) = c :: rest :=
  List.dropWhile_cons_of_neg (by simp [h])

theorem skip_of_blank {cs : List Char} (blank : Blank cs) : skip cs = [] := by
  have rest := skip_append blank []
  rwa [List.append_nil] at rest

/-- What stands behind blanks begins with an opening bracket that is closed again. -/
theorem skip_bracketed {run : List Char} (blank : Blank run) {opening : Char}
    (visible : isBlank opening = false) (text : List Char) (closing : Char) (rest : List Char) :
    skip (run ++ (opening :: (text ++ [closing]) ++ rest)) = opening :: (text ++ closing :: rest) := by
  rw [skip_append blank, List.cons_append, skip_cons visible, List.append_assoc]
  rfl

theorem exists_skip (cs : List Char) : ∃ run, Blank run ∧ cs = run ++ skip cs :=
  ⟨cs.takeWhile isBlank, List.all_eq_true.1 List.all_takeWhile,
    List.takeWhile_append_dropWhile.symm⟩

theorem exists_of_skip {cs rest : List Char} {c : Char} (h : skip cs = c :: rest) :
    isBlank c = false ∧ ∃ run, Blank run ∧ cs = run ++ c :: rest := by
  have first := List.head?_dropWhile_not isBlank cs
  obtain ⟨run, blank, whole⟩ := exists_skip cs
  rw [show cs.dropWhile isBlank = c :: rest from h] at first
  exact ⟨by simpa using first, run, blank, h ▸ whole⟩

/-- What begins here is neither blank nor the end of a list. -/
def Starts (cs : List Char) : Prop := ∃ c rest, cs = c :: rest ∧ isBlank c = false ∧ c ≠ ']'

theorem Starts.ne_nil {cs : List Char} (h : Starts cs) : cs ≠ [] := by
  obtain ⟨c, rest, rfl, -⟩ := h
  exact List.cons_ne_nil c rest

theorem Starts.append {cs : List Char} (h : Starts cs) (behind : List Char) :
    Starts (cs ++ behind) := by
  obtain ⟨c, rest, rfl, visible, open'⟩ := h
  exact ⟨c, rest ++ behind, rfl, visible, open'⟩

/-! ### Parts and what follows them -/

/-- What stands between two parts: a comma with blanks around it. -/
inductive Comma : List Char → Prop
  | mk {run run' : List Char} (blank : Blank run) (blank' : Blank run') : Comma (run ++ ',' :: run')

theorem Comma.append {front run : List Char} (comma : Comma front) (blank : Blank run) :
    Comma (front ++ run) := by
  obtain ⟨before, behind⟩ := comma
  rw [List.append_assoc, List.cons_append]
  exact ⟨before, behind.append blank⟩

/-- What stands in front of a closing bracket: blanks, or parts, the first one behind a `lead` and each
other one behind a comma. -/
inductive Follows {α : Type} (part : α → List Char → Prop) :
    (List Char → Prop) → List α → List Char → Prop
  | none {lead : List Char → Prop} {run : List Char} (blank : Blank run) : Follows part lead [] run
  | some {lead : List Char → Prop} {a : α} {as : List α} {front cs rest : List Char}
      (first : lead front) (spells : part a cs) (behind : Follows part Comma as rest) :
    Follows part lead (a :: as) (front ++ (cs ++ rest))

section

variable {α : Type} {part : α → List Char → Prop} {as : List α} {text : List Char}

/-- A part ends where something follows. -/
theorem Follows.numeralEnds (h : Follows part Comma as text) {close : Char}
    (bracket : close ∈ [']', '\x7d']) (rest : List Char) : NumeralEnds (text ++ close :: rest) := by
  cases h with
  | none blank =>
    refine .append blank (.cons ?_ rest)
    simp only [List.mem_cons, List.not_mem_nil, or_false] at bracket ⊢
    exact .inr (.inr (.inr (.inr (.inr bracket))))
  | some comma _ _ =>
    obtain ⟨blank, -⟩ := comma
    rw [List.append_assoc, List.append_assoc, List.cons_append]
    exact .append blank (.cons (by decide) _)

theorem follows_of_separated (h : Separated (Padded part) as text) : Follows part Blank as text ∧
    ∀ run, Blank run → Follows part Comma as (run ++ ',' :: text) := by
  have start {a : α} {as : List α} {before cs tail : List Char} (blank : Blank before)
      (spells : part a cs) (behind : Follows part Comma as tail) :
      Follows part Blank (a :: as) (before ++ (cs ++ tail)) ∧
        ∀ run, Blank run → Follows part Comma (a :: as) (run ++ ',' :: (before ++ (cs ++ tail))) := by
    refine ⟨.some blank spells behind, fun run blank' => ?_⟩
    have whole := Follows.some (Comma.mk blank' blank) spells behind
    simpa using whole
  induction h with
  | last spells =>
    obtain ⟨blank, spells, blank'⟩ := spells
    exact start blank spells (.none blank')
  | more spells _ ih =>
    obtain ⟨blank, spells, blank'⟩ := spells
    have whole := start blank spells (ih.2 _ blank')
    simpa using whole

theorem separated_of_follows {a : α} (h : Follows part Blank (a :: as) text) :
    Separated (Padded part) (a :: as) text := by
  induction as generalizing a text with
  | nil =>
    obtain _ | ⟨blank, spells, behind⟩ := h
    obtain blank' | _ := behind
    exact .last ⟨blank, spells, blank'⟩
  | cons b as ih =>
    obtain _ | ⟨blank, spells, behind⟩ := h
    obtain _ | ⟨⟨gap, gap'⟩, spells', behind'⟩ := behind
    have later := ih (.some gap' spells' behind')
    have whole := Separated.more ⟨blank, spells, gap⟩ later
    simpa using whole

/-- Between two brackets stand blanks, or parts of which the first follows blanks. -/
theorem listed_iff : Listed part as text ↔ Follows part Blank as text := by
  constructor
  · rintro (blank | parts)
    · exact .none blank
    · exact (follows_of_separated parts).1
  · intro h
    cases as with
    | nil =>
      obtain blank | _ := h
      exact .none blank
    | cons a as => exact .some (separated_of_follows h)

end

/-! ### Lists -/

theorem firstItem_eq_false {cs rest : List Char} :
    firstItem cs = .ok (false, rest) ↔ ∃ run, Blank run ∧ cs = run ++ ']' :: rest := by
  constructor
  · intro h
    unfold firstItem at h
    split at h
    · cases h
    next c tail found =>
    obtain ⟨-, run, blank, rfl⟩ := exists_of_skip found
    split at h
    · next close =>
      obtain ⟨-, rfl⟩ := Prod.mk.inj (Except.ok.inj h)
      exact ⟨run, blank, by rw [close]⟩
    · cases h
  · rintro ⟨run, blank, rfl⟩
    rw [firstItem, skip_append blank, skip_cons (by decide)]
    rfl

theorem firstItem_eq_true {cs rest : List Char} :
    firstItem cs = .ok (true, rest) ↔ Starts rest ∧ ∃ run, Blank run ∧ cs = run ++ rest := by
  constructor
  · intro h
    unfold firstItem at h
    split at h
    · cases h
    next c tail found =>
    obtain ⟨visible, run, blank, rfl⟩ := exists_of_skip found
    split at h
    · cases h
    · next item =>
      obtain ⟨-, rfl⟩ := Prod.mk.inj (Except.ok.inj h)
      exact ⟨⟨c, tail, rfl, visible, item⟩, run, blank, rfl⟩
  · rintro ⟨⟨c, tail, rfl, visible, item⟩, run, blank, rfl⟩
    rw [firstItem, skip_append blank, skip_cons visible]
    exact if_neg item

theorem nextItem_eq_false {cs rest : List Char} :
    nextItem cs = .ok (false, rest) ↔ ∃ run, Blank run ∧ cs = run ++ ']' :: rest := by
  constructor
  · intro h
    unfold nextItem at h
    split at h
    · cases h
    next c tail found =>
    obtain ⟨-, run, blank, rfl⟩ := exists_of_skip found
    split at h
    · next close =>
      obtain ⟨-, rfl⟩ := Prod.mk.inj (Except.ok.inj h)
      exact ⟨run, blank, by rw [close]⟩
    split at h
    · split at h
      · cases h
      · split at h <;> cases h
    · cases h
  · rintro ⟨run, blank, rfl⟩
    rw [nextItem, skip_append blank, skip_cons (by decide)]
    rfl

theorem nextItem_eq_true {cs rest : List Char} :
    nextItem cs = .ok (true, rest) ↔ Starts rest ∧ ∃ front, Comma front ∧ cs = front ++ rest := by
  constructor
  · intro h
    unfold nextItem at h
    split at h
    · cases h
    next c tail found =>
    obtain ⟨-, run, blank, rfl⟩ := exists_of_skip found
    split at h
    · cases h
    split at h
    · next comma =>
      split at h
      · cases h
      next d tail' found' =>
      obtain ⟨visible, run', blank', rfl⟩ := exists_of_skip found'
      split at h
      · cases h
      · next item =>
        obtain ⟨-, rfl⟩ := Prod.mk.inj (Except.ok.inj h)
        exact ⟨⟨d, tail', rfl, visible, item⟩, run ++ ',' :: run', ⟨blank, blank'⟩, by simp [comma]⟩
    · cases h
  · rintro ⟨⟨c, tail, rfl, visible, item⟩, _, ⟨blank, blank'⟩, rfl⟩
    rw [nextItem, List.append_assoc, skip_append blank, List.cons_append, skip_cons (by decide)]
    dsimp only
    rw [if_neg (by decide), if_pos rfl, skip_append blank', skip_cons visible]
    exact if_neg item

/-- The scan succeeds on the texts of the parts, with blanks in front of them and anything behind
them that ends a numeral, and on no other. -/
structure Takes {α : Type} (bound : Nat) (scan : Scan α) (part : α → List Char → Prop) : Prop where
  sound {cs rest : List Char} {a : α} (h : scan cs = .ok (a, rest)) :
    ∃ run text, Blank run ∧ part a text ∧ cs = run ++ (text ++ rest)
  complete {run text rest : List Char} {a : α} (blank : Blank run) (spells : part a text)
    (enough : text.length < bound) (ends : NumeralEnds rest) :
    scan (run ++ (text ++ rest)) = .ok (a, rest)
  starts {text : List Char} {a : α} (spells : part a text) : Starts text

section

variable {α : Type} {bound : Nat} {item : Scan α} {part : α → List Char → Prop}

theorem Takes.congr {part' : α → List Char → Prop} (h : ∀ a text, part a text ↔ part' a text)
    (takes : Takes bound item part) : Takes bound item part' := by
  obtain rfl : part = part' := funext fun a => funext fun text => propext (h a text)
  exact takes

/-- What the loop has read is an item and what follows it. -/
theorem exists_of_items (takes : Takes bound item part) {steps : Nat} {cs rest : List Char}
    {as : List α} (h : items item steps cs = .ok (as, rest)) :
    ∃ a as' run text tail, as = a :: as' ∧ Blank run ∧ part a text ∧ Follows part Comma as' tail ∧
      cs = run ++ (text ++ (tail ++ ']' :: rest)) := by
  induction steps generalizing cs as with
  | zero => cases h
  | succ steps ih =>
    simp only [items, bind_eq_ok, Prod.exists] at h
    obtain ⟨a, cs', first, more, cs'', next, h⟩ := h
    obtain ⟨run, text, blank, spells, rfl⟩ := takes.sound first
    cases more with
    | false =>
      obtain ⟨run', blank', rfl⟩ := nextItem_eq_false.1 next
      obtain ⟨rfl, rfl⟩ := Prod.mk.inj (Except.ok.inj h)
      exact ⟨a, [], run, text, run', rfl, blank, spells, .none blank', rfl⟩
    | true =>
      obtain ⟨-, front, comma, rfl⟩ := nextItem_eq_true.1 next
      simp only [if_true, bind_eq_ok, Prod.exists] at h
      obtain ⟨as', rest', others, h⟩ := h
      obtain ⟨rfl, rfl⟩ := Prod.mk.inj (Except.ok.inj h)
      obtain ⟨b, bs, run', text', tail, rfl, blank', spells', behind, rfl⟩ := ih others
      exact ⟨a, b :: bs, run, text, _, rfl, blank, spells,
        .some (comma.append blank') spells' behind, by simp⟩

/-- An item and the ones that follow it are read by the loop. -/
theorem items_of_follows (takes : Takes bound item part) {a : α} {as : List α}
    {text tail : List Char} (spells : part a text) (h : Follows part Comma as tail) {steps : Nat}
    (fits : text.length + tail.length < bound) (enough : text.length + tail.length < steps)
    (rest : List Char) :
    items item steps (text ++ (tail ++ ']' :: rest)) = .ok (a :: as, rest) := by
  induction as generalizing a text tail steps with
  | nil =>
    obtain ⟨steps, rfl⟩ := Nat.exists_eq_add_one.2 (Nat.zero_lt_of_lt enough)
    have first : item (text ++ (tail ++ ']' :: rest)) = .ok (a, tail ++ ']' :: rest) :=
      takes.complete .nil spells (by omega) (h.numeralEnds (by decide) rest)
    obtain blank | _ := h
    have close : nextItem (tail ++ ']' :: rest) = .ok (false, rest) :=
      nextItem_eq_false.2 ⟨tail, blank, rfl⟩
    simp only [items, first, close, bind, Except.bind]
    rfl
  | cons b as ih =>
    obtain ⟨steps, rfl⟩ := Nat.exists_eq_add_one.2 (Nat.zero_lt_of_lt enough)
    have first : item (text ++ (tail ++ ']' :: rest)) = .ok (a, tail ++ ']' :: rest) :=
      takes.complete .nil spells (by omega) (h.numeralEnds (by decide) rest)
    obtain _ | @⟨_, _, _, front, text', tail, comma, spells', behind⟩ := h
    have one := List.length_pos_iff.2 (takes.starts spells).ne_nil
    simp only [List.length_append] at fits enough
    have next := nextItem_eq_true.2
      ⟨(takes.starts spells').append (tail ++ ']' :: rest), front, comma, rfl⟩
    have others := ih spells' behind (by omega) (show _ < steps by omega)
    rw [List.append_assoc, List.append_assoc] at first ⊢
    simp only [items, first, next, bind, Except.bind, if_true, others]
    rfl

/-- A list is read up to its closing bracket. -/
theorem exists_of_list (takes : Takes bound item part) {cs rest : List Char} {as : List α}
    (h : list bound item cs = .ok (as, rest)) :
    ∃ text, Follows part Blank as text ∧ cs = text ++ ']' :: rest := by
  simp only [list, bind_eq_ok, Prod.exists] at h
  obtain ⟨more, cs', first, h⟩ := h
  cases more with
  | false =>
    obtain ⟨run, blank, rfl⟩ := firstItem_eq_false.1 first
    obtain ⟨rfl, rfl⟩ := Prod.mk.inj (Except.ok.inj h)
    exact ⟨run, .none blank, rfl⟩
  | true =>
    obtain ⟨-, run, blank, rfl⟩ := firstItem_eq_true.1 first
    obtain ⟨a, as', run', text, tail, rfl, blank', spells, behind, rfl⟩ := exists_of_items takes h
    exact ⟨_, .some (blank.append blank') spells behind, by simp⟩

theorem list_of_follows (takes : Takes bound item part) {as : List α} {text : List Char}
    (h : Follows part Blank as text) (fits : text.length < bound) (rest : List Char) :
    list bound item (text ++ ']' :: rest) = .ok (as, rest) := by
  cases h with
  | none blank =>
    have close : firstItem (text ++ ']' :: rest) = .ok (false, rest) :=
      firstItem_eq_false.2 ⟨text, blank, rfl⟩
    simp only [list, close, bind, Except.bind]
    rfl
  | @some _ a as run text tail blank spells behind =>
    simp only [List.length_append] at fits
    have first := firstItem_eq_true.2 ⟨(takes.starts spells).append (tail ++ ']' :: rest), run, blank, rfl⟩
    have read := items_of_follows takes spells behind (by omega) (show _ < bound by omega) rest
    simp only [List.append_assoc, list, first, bind, Except.bind, if_true, read]

end

/-! ### Objects -/

theorem firstMember_eq_false {cs rest : List Char} :
    firstMember cs = .ok (false, rest) ↔ ∃ run, Blank run ∧ cs = run ++ '\x7d' :: rest := by
  constructor
  · intro h
    unfold firstMember at h
    split at h
    · cases h
    next c tail found =>
    obtain ⟨-, run, blank, rfl⟩ := exists_of_skip found
    split at h
    · next close =>
      obtain ⟨-, rfl⟩ := Prod.mk.inj (Except.ok.inj h)
      exact ⟨run, blank, by rw [close]⟩
    · split at h <;> cases h
  · rintro ⟨run, blank, rfl⟩
    rw [firstMember, skip_append blank, skip_cons (by decide)]
    rfl

theorem firstMember_eq_true {cs rest : List Char} :
    firstMember cs = .ok (true, rest) ↔ ∃ run, Blank run ∧ cs = run ++ '"' :: rest := by
  constructor
  · intro h
    unfold firstMember at h
    split at h
    · cases h
    next c tail found =>
    obtain ⟨-, run, blank, rfl⟩ := exists_of_skip found
    split at h
    · cases h
    split at h
    · next quote =>
      obtain ⟨-, rfl⟩ := Prod.mk.inj (Except.ok.inj h)
      exact ⟨run, blank, by rw [quote]⟩
    · cases h
  · rintro ⟨run, blank, rfl⟩
    rw [firstMember, skip_append blank, skip_cons (by decide)]
    rfl

theorem nextMember_eq_false {cs rest : List Char} :
    nextMember cs = .ok (false, rest) ↔ ∃ run, Blank run ∧ cs = run ++ '\x7d' :: rest := by
  constructor
  · intro h
    unfold nextMember at h
    split at h
    · cases h
    next c tail found =>
    obtain ⟨-, run, blank, rfl⟩ := exists_of_skip found
    split at h
    · next close =>
      obtain ⟨-, rfl⟩ := Prod.mk.inj (Except.ok.inj h)
      exact ⟨run, blank, by rw [close]⟩
    split at h
    · split at h
      · cases h
      · split at h
        · cases h
        · split at h <;> cases h
    · cases h
  · rintro ⟨run, blank, rfl⟩
    rw [nextMember, skip_append blank, skip_cons (by decide)]
    rfl

theorem nextMember_eq_true {cs rest : List Char} :
    nextMember cs = .ok (true, rest) ↔ ∃ front, Comma front ∧ cs = front ++ '"' :: rest := by
  constructor
  · intro h
    unfold nextMember at h
    split at h
    · cases h
    next c tail found =>
    obtain ⟨-, run, blank, rfl⟩ := exists_of_skip found
    split at h
    · cases h
    split at h
    · next comma =>
      split at h
      · cases h
      next d tail' found' =>
      obtain ⟨-, run', blank', rfl⟩ := exists_of_skip found'
      split at h
      · next quote =>
        obtain ⟨-, rfl⟩ := Prod.mk.inj (Except.ok.inj h)
        exact ⟨run ++ ',' :: run', ⟨blank, blank'⟩, by simp [comma, quote]⟩
      · split at h <;> cases h
    · cases h
  · rintro ⟨_, ⟨blank, blank'⟩, rfl⟩
    rw [nextMember, List.append_assoc, skip_append blank, List.cons_append, skip_cons (by decide)]
    dsimp only
    rw [if_neg (by decide), if_pos rfl, skip_append blank', skip_cons (by decide)]
    rfl

theorem colon_eq_ok {cs rest : List Char} :
    colon cs = .ok rest ↔ ∃ run, Blank run ∧ cs = run ++ ':' :: rest := by
  constructor
  · intro h
    unfold colon at h
    split at h
    · cases h
    next c tail found =>
    obtain ⟨-, run, blank, rfl⟩ := exists_of_skip found
    split at h
    · next mark =>
      obtain rfl := Except.ok.inj h
      exact ⟨run, blank, by rw [mark]⟩
    · cases h
  · rintro ⟨run, blank, rfl⟩
    rw [colon, skip_append blank, skip_cons (by decide)]
    rfl

section

variable {α : Type} {bound : Nat}

/-- Members each of which is allowed behind the keys before it. -/
inductive Each (allowed : List String → String × α → Prop) : List String → Members α → Prop
  | nil {seen : List String} : Each allowed seen []
  | cons {seen : List String} {m : String × α} {ms : Members α} (first : allowed seen m)
      (behind : Each allowed (m.1 :: seen) ms) :
    Each allowed seen (m :: ms)

theorem Each.cons_iff {allowed : List String → String × α → Prop} {seen : List String}
    {m : String × α} {ms : Members α} :
    Each allowed seen (m :: ms) ↔ allowed seen m ∧ Each allowed (m.1 :: seen) ms :=
  ⟨fun | .cons first behind => ⟨first, behind⟩, fun h => .cons h.1 h.2⟩

theorem Each.of_forall {allowed : List String → String × α → Prop}
    (h : ∀ seen m, allowed seen m) (seen : List String) (ms : Members α) :
    Each allowed seen ms := by
  induction ms generalizing seen with
  | nil => exact .nil
  | cons m ms ih => exact .cons (h seen m) (ih _)

/-- Behind the quote that opens a key, the scan succeeds on the texts of the members that are allowed
behind the keys before them, and on no other. -/
structure TakesMembers (bound : Nat) (member : List String → Scan (String × α))
    (allowed : List String → String × α → Prop) (inside : α → List Char → Prop) : Prop where
  sound {seen : List String} {cs rest : List Char} {m : String × α}
    (h : member seen cs = .ok (m, rest)) :
    allowed seen m ∧ ∃ text, Member inside m ('"' :: text) ∧ cs = text ++ rest
  complete {seen : List String} {text rest : List Char} {m : String × α} (allow : allowed seen m)
    (spells : Member inside m ('"' :: text)) (enough : text.length < bound)
    (ends : NumeralEnds rest) :
    member seen (text ++ rest) = .ok (m, rest)

variable {member : List String → Scan (String × α)}
  {allowed : List String → String × α → Prop} {inside : α → List Char → Prop}

/-- What the loop has read is a member, from behind its first quote, and what follows it. -/
theorem exists_of_members (takes : TakesMembers bound member allowed inside) {steps : Nat}
    {seen : List String} {cs rest : List Char} {ms : Members α}
    (h : members member steps seen cs = .ok (ms, rest)) :
    Each allowed seen ms ∧
      ∃ m ms' text tail, ms = m :: ms' ∧ Member inside m ('"' :: text) ∧
        Follows (Member inside) Comma ms' tail ∧ cs = text ++ (tail ++ '\x7d' :: rest) := by
  induction steps generalizing seen cs ms with
  | zero => cases h
  | succ steps ih =>
    simp only [members, bind_eq_ok, Prod.exists] at h
    obtain ⟨key, a, cs', first, more, cs'', next, h⟩ := h
    obtain ⟨allow, text, spells, rfl⟩ := takes.sound first
    cases more with
    | false =>
      obtain ⟨run, blank, rfl⟩ := nextMember_eq_false.1 next
      obtain ⟨rfl, rfl⟩ := Prod.mk.inj (Except.ok.inj h)
      exact ⟨.cons allow .nil, (key, a), [], text, run, rfl, spells, .none blank, rfl⟩
    | true =>
      obtain ⟨front, comma, rfl⟩ := nextMember_eq_true.1 next
      simp only [if_true, bind_eq_ok, Prod.exists] at h
      obtain ⟨ms', rest', others, h⟩ := h
      obtain ⟨rfl, rfl⟩ := Prod.mk.inj (Except.ok.inj h)
      obtain ⟨each, n, ns, text', tail, rfl, spells', behind, rfl⟩ := ih others
      exact ⟨.cons allow each, (key, a), n :: ns, text, _, rfl, spells, .some comma spells' behind,
        by simp⟩

theorem Member.exists_cons {m : String × α} {text : List Char} (h : Member inside m text) :
    ∃ tail, text = '"' :: tail := by
  cases h
  exact ⟨_, rfl⟩

/-- A member, from behind its first quote, and the ones that follow it are read by the loop. -/
theorem members_of_follows (takes : TakesMembers bound member allowed inside) {m : String × α}
    {ms : Members α} {seen : List String} (each : Each allowed seen (m :: ms))
    {text tail : List Char} (spells : Member inside m ('"' :: text))
    (h : Follows (Member inside) Comma ms tail) {steps : Nat}
    (fits : text.length + tail.length < bound) (enough : text.length + tail.length < steps)
    (rest : List Char) :
    members member steps seen (text ++ (tail ++ '\x7d' :: rest)) = .ok (m :: ms, rest) := by
  induction ms generalizing m seen text tail steps with
  | nil =>
    obtain ⟨steps, rfl⟩ := Nat.exists_eq_add_one.2 (Nat.zero_lt_of_lt enough)
    obtain _ | ⟨allow, -⟩ := each
    have first : member seen (text ++ (tail ++ '\x7d' :: rest)) = .ok (m, tail ++ '\x7d' :: rest) :=
      takes.complete allow spells (by omega) (h.numeralEnds (by decide) rest)
    obtain blank | _ := h
    have close : nextMember (tail ++ '\x7d' :: rest) = .ok (false, rest) :=
      nextMember_eq_false.2 ⟨tail, blank, rfl⟩
    simp only [members, first, close, bind, Except.bind]
    rfl
  | cons n ms ih =>
    obtain ⟨steps, rfl⟩ := Nat.exists_eq_add_one.2 (Nat.zero_lt_of_lt enough)
    obtain _ | ⟨allow, each⟩ := each
    have first : member seen (text ++ (tail ++ '\x7d' :: rest)) = .ok (m, tail ++ '\x7d' :: rest) :=
      takes.complete allow spells (by omega) (h.numeralEnds (by decide) rest)
    obtain _ | @⟨_, _, _, front, _, tail, comma, spells', behind⟩ := h
    obtain ⟨text', rfl⟩ := Member.exists_cons spells'
    simp only [List.length_append, List.length_cons] at fits enough
    have next : nextMember (front ++ '"' :: (text' ++ (tail ++ '\x7d' :: rest))) =
        .ok (true, text' ++ (tail ++ '\x7d' :: rest)) :=
      nextMember_eq_true.2 ⟨front, comma, rfl⟩
    have others := ih each spells' behind (by omega) (show _ < steps by omega)
    simp only [List.append_assoc, List.cons_append] at first ⊢
    simp only [members, first, next, bind, Except.bind, if_true, others]
    rfl

/-- An object is read up to its closing brace. -/
theorem exists_of_object (takes : TakesMembers bound member allowed inside) {cs rest : List Char}
    {ms : Members α} (h : object bound member cs = .ok (ms, rest)) :
    Each allowed [] ms ∧
      ∃ text, Follows (Member inside) Blank ms text ∧ cs = text ++ '\x7d' :: rest := by
  simp only [object, bind_eq_ok, Prod.exists] at h
  obtain ⟨more, cs', first, h⟩ := h
  cases more with
  | false =>
    obtain ⟨run, blank, rfl⟩ := firstMember_eq_false.1 first
    obtain ⟨rfl, rfl⟩ := Prod.mk.inj (Except.ok.inj h)
    exact ⟨.nil, run, .none blank, rfl⟩
  | true =>
    obtain ⟨run, blank, rfl⟩ := firstMember_eq_true.1 first
    obtain ⟨each, m, ms', text, tail, rfl, spells, behind, rfl⟩ := exists_of_members takes h
    exact ⟨each, _, .some blank spells behind, by simp⟩

theorem object_of_follows (takes : TakesMembers bound member allowed inside) {ms : Members α}
    {text : List Char} (each : Each allowed [] ms) (h : Follows (Member inside) Blank ms text)
    (fits : text.length < bound) (rest : List Char) :
    object bound member (text ++ '\x7d' :: rest) = .ok (ms, rest) := by
  cases h with
  | none blank =>
    have close : firstMember (text ++ '\x7d' :: rest) = .ok (false, rest) :=
      firstMember_eq_false.2 ⟨text, blank, rfl⟩
    simp only [object, close, bind, Except.bind]
    rfl
  | @some _ m ms run _ tail blank spells behind =>
    obtain ⟨text, rfl⟩ := Member.exists_cons spells
    simp only [List.length_append, List.length_cons] at fits
    have first : firstMember (run ++ '"' :: (text ++ (tail ++ '\x7d' :: rest))) =
        .ok (true, text ++ (tail ++ '\x7d' :: rest)) :=
      firstMember_eq_true.2 ⟨run, blank, rfl⟩
    have read := members_of_follows takes each spells behind (by omega) (show _ < bound by omega) rest
    simp only [List.append_assoc, List.cons_append, object, first, bind, Except.bind, if_true, read]

end

/-- With any key, a member is taken if its value is. -/
theorem Takes.member {α : Type} {bound : Nat} {value : Scan α} {inside : α → List Char → Prop}
    (takes : Takes bound value inside) :
    TakesMembers bound (fun _ => member bound value) (fun _ _ => True) inside where
  sound {seen cs rest m} h := by
    simp only [Reader.member, bind_eq_ok, Prod.exists] at h
    obtain ⟨key, cs', read, cs'', mark, a, rest', inner, h⟩ := h
    obtain ⟨rfl, rfl⟩ := Prod.mk.inj (Except.ok.inj h)
    obtain ⟨name, chars, rfl⟩ := Literal.exists_of_read read
    obtain ⟨gap, blank, rfl⟩ := colon_eq_ok.1 mark
    obtain ⟨gap', text, blank', spells, rfl⟩ := takes.sound inner
    exact ⟨trivial, _, .mk chars blank blank' spells, by simp⟩
  complete {seen text rest m} _ spells enough ends := by
    obtain @⟨key, a, name, gap, gap', text, chars, blank, blank', spells⟩ := spells
    simp only [List.length_append, List.length_cons] at enough
    have read := Literal.read_of_spells chars (gap ++ ':' :: (gap' ++ (text ++ rest)))
      (show name.length < bound by omega)
    have mark : colon (gap ++ ':' :: (gap' ++ (text ++ rest))) = .ok (gap' ++ (text ++ rest)) :=
      colon_eq_ok.2 ⟨gap, blank, rfl⟩
    have inner := takes.complete blank' spells (by omega) ends
    simp only [List.append_assoc, List.cons_append, Reader.member, read, bind, Except.bind, mark,
      inner]
    rfl

end Reader

end WorkflowLint.Json
