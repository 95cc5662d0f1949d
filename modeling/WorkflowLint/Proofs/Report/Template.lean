import WorkflowLint.Proofs.Report.Numbering

/-!
# Reports with open numbers

The markup of a report depends on the number of its first detail only where a detail shows its
number. So one `Template` does for all numbers: a text that leaves them open, each detail its own in
two places (`Report.fills_html`).
-/

set_option autoImplicit false

namespace WorkflowLint

open Markup

/-- A piece of a text with open numbers. -/
inductive Segment where
  | fixed (text : String)
  /-- The number that comes so many after the first. -/
  | number (ahead : Nat)

abbrev Template := List Segment

namespace Template

/-- The text with its numbers, of which this is the first. -/
def fill (t : Template) (row : Nat) : String :=
  String.join (t.map fun
    | .fixed text => text
    | .number ahead => toString (row + ahead))

/-- The open numbers in the order of their places. -/
def numbers (t : Template) : List Nat :=
  t.filterMap fun
    | .fixed _ => none
    | .number ahead => some ahead

end Template

/-- The text comes from one template, whatever the first number is. -/
def Fills (text : Nat → String) (numbers : List Nat) : Prop :=
  ∃ t : Template, t.numbers = numbers ∧ ∀ row, text row = t.fill row

namespace Fills

variable {text text' : Nat → String} {ns ns' : List Nat}

theorem fixed (text : String) : Fills (fun _ => text) [] :=
  ⟨[.fixed text], rfl, fun _ => by simp [Template.fill]⟩

theorem number (ahead : Nat) : Fills (fun row => toString (row + ahead)) [ahead] :=
  ⟨[.number ahead], rfl, fun _ => by simp [Template.fill]⟩

theorem append (h : Fills text ns) (h' : Fills text' ns') :
    Fills (fun row => text row ++ text' row) (ns ++ ns') := by
  obtain ⟨t, numbers, filled⟩ := h
  obtain ⟨t', numbers', filled'⟩ := h'
  refine ⟨t ++ t', ?_, fun row => ?_⟩
  · rw [Template.numbers, List.filterMap_append, ← numbers, ← numbers']
    rfl
  · show text row ++ text' row = _
    rw [filled, filled', Template.fill, Template.fill, Template.fill, List.map_append,
      String.join_append]

/-- A number between two fixed texts. -/
theorem between (front back : String) (ahead : Nat) :
    Fills (fun row => front ++ toString (row + ahead) ++ back) [ahead] :=
  ((fixed front).append (number ahead)).append (fixed back)

/-- A line in front of others. -/
theorem cons_line (depth : Nat) (h : Fills text ns) {lines : Nat → List String}
    (rest : Fills (fun row => ofLines (lines row)) ns') :
    Fills (fun row => ofLines (indent depth (text row) :: lines row)) (ns ++ ns') := by
  have blanks := fixed (String.ofList (List.replicate (2 * depth) ' '))
  have whole := (blanks.append h).append ((fixed "\n").append rest)
  simpa [ofLines, indent, String.append_assoc] using whole

end Fills

/-! ### Steps -/

/-- The steps write what comes from one template, whatever is open around them and comes behind. -/
def Lays (steps : Nat → List Step) (ns : List Nat) : Prop :=
  ∀ (rest : Nat → List Step) (ns' : List Nat),
    (∀ tags, Fills (fun row => ofLines (layout tags (rest row))) ns') →
    ∀ tags, Fills (fun row => ofLines (layout tags (steps row ++ rest row))) (ns ++ ns')

namespace Lays

variable {steps steps' : Nat → List Step} {ns ns' : List Nat} {text : Nat → String}

theorem append (h : Lays steps ns) (h' : Lays steps' ns') :
    Lays (fun row => steps row ++ steps' row) (ns ++ ns') := by
  intro rest more filled tags
  have whole := h _ _ (h' rest more filled) tags
  simpa only [List.append_assoc] using whole

theorem line (h : Fills text ns) : Lays (fun row => [.line (text row)]) ns :=
  fun _ _ filled tags => h.cons_line tags.length (filled tags)

/-- The numbers of an element may stand in its opening tag, and not in its text. -/
theorem element {tag : String} {attributes : Nat → String} (content : String)
    (h : Fills (fun row => openingTag tag (attributes row)) ns) :
    Lays (fun row => [.element tag (attributes row) content]) ns := by
  intro rest more filled tags
  have whole := (h.append (.fixed content)).append (.fixed (closingTag tag))
  rw [List.append_nil, List.append_nil] at whole
  exact whole.cons_line tags.length (filled tags)

/-- Steps in which no number occurs. -/
theorem fixed (steps : List Step) : Lays (fun _ => steps) [] := by
  induction steps with
  | nil => exact fun _ _ filled => filled
  | cons step others ih =>
    intro rest more filled tags
    have behind := ih rest more filled
    cases step with
    | line text => exact (Fills.fixed text).cons_line tags.length (behind tags)
    | opening tag attributes =>
      exact (Fills.fixed (openingTag tag attributes)).cons_line tags.length (behind (tag :: tags))
    | closing =>
      cases tags with
      | nil => exact behind []
      | cons tag outer => exact (Fills.fixed (closingTag tag)).cons_line outer.length (behind outer)
    | element tag attributes text =>
      have whole := Fills.fixed (openingTag tag attributes ++ text ++ closingTag tag)
      exact whole.cons_line tags.length (behind tags)

/-- At the end, what is open is closed. -/
theorem fills_render (h : Lays steps ns) : Fills (fun row => render (steps row)) ns := by
  have ends (tags : List String) : Fills (fun _ => ofLines (layout tags [])) [] := .fixed _
  have whole := h (fun _ => []) [] ends []
  simp only [List.append_nil] at whole
  exact whole

end Lays

/-- So many numbers from a first one on, each in two places. -/
def twice (first count : Nat) : List Nat := (List.range' first count).flatMap fun n => [n, n]

theorem twice_append (first m n : Nat) :
    twice first m ++ twice (first + m) n = twice first (m + n) := by
  rw [twice, twice, twice, ← List.flatMap_append, List.range'_append_1]

/-- What is numbered from `row` on comes from one template, and takes `count` numbers. -/
structure Numbered.Opens (item : Nat → Numbered) (count : Nat) : Prop where
  next : ∀ row, (item row).2 = row + count
  lays : ∀ ahead, Lays (fun row => (item (row + ahead)).1) (twice ahead count)

namespace Numbered.Opens

variable {α : Type}

/-- Items one after the other take the numbers of all of them. -/
theorem all {item : Nat → α → Numbered} {count : α → Nat} {list : List α}
    (h : ∀ a ∈ list, Opens (fun row => item row a) (count a)) :
    Opens (fun row => Numbered.all item row list) (list.map count).sum := by
  induction list with
  | nil => exact ⟨fun _ => rfl, fun _ => Lays.fixed []⟩
  | cons a rest ih =>
    obtain ⟨here, others⟩ := List.forall_mem_cons.1 h
    have behind := ih others
    constructor
    · intro row
      show (Numbered.all item (item row a).2 rest).2 = _
      rw [behind.next, here.next, List.map_cons, List.sum_cons, Nat.add_assoc]
    · intro ahead
      have both := (here.lays ahead).append (behind.lays (ahead + count a))
      rw [twice_append] at both
      have steps (row : Nat) : (Numbered.all item (row + ahead) (a :: rest)).1 =
          (item (row + ahead) a).1 ++ (Numbered.all item (row + (ahead + count a)) rest).1 := by
        have next : (item (row + ahead) a).2 = _ := here.next (row + ahead)
        rw [Numbered.all, next, Nat.add_assoc]
      simp only [steps, List.map_cons, List.sum_cons]
      exact both

/-- Steps without numbers may stand around what is numbered. -/
theorem around {item : Nat → Numbered} {count : Nat} (h : Opens item count)
    (front back : List Step) :
    Opens (fun row => (front ++ (item row).1 ++ back, (item row).2)) count where
  next := h.next
  lays ahead := by
    have whole := ((Lays.fixed front).append (h.lays ahead)).append (Lays.fixed back)
    rwa [List.nil_append, List.append_nil] at whole

end Numbered.Opens

/-! ### Reports -/

/-- How many numbers a row takes. -/
def Finding.detailCount (f : Finding) : Nat := if f.moreInfo.isSome then 1 else 0

theorem Finding.opens_detail (f : Finding) :
    Numbered.Opens (fun row => f.detailSteps row) f.detailCount := by
  unfold Finding.detailSteps Finding.detailCount
  cases f.moreInfo with
  | none => exact ⟨fun _ => rfl, fun _ => Lays.fixed []⟩
  | some text =>
    refine ⟨fun _ => rfl, fun ahead => ?_⟩
    have link := Lays.line (Fills.between "<small><a class=\"more-info-toggle\" data-index=\""
      "\">(details)</a></small>" ahead)
    have opening : Fills (fun row => openingTag "div"
        ("id=\"more-info-" ++ toString (row + ahead) ++ "\" class=\"more-info\"")) [ahead] := by
      simp only [openingTag_block]
      exact Fills.between "<div id=\"more-info-" "\" class=\"more-info\">" ahead
    exact link.append (Lays.element (escape text) opening)

theorem Finding.opens_steps (f : Finding) :
    Numbered.Opens (fun row => f.steps row) f.detailCount :=
  f.opens_detail.around _ [.closing, .closing]

theorem Bucket.opens_steps (b : Bucket) (findings : List Finding) :
    Numbered.Opens (fun row => b.steps row findings) (findings.map Finding.detailCount).sum :=
  (Numbered.Opens.all fun f _ => f.opens_steps).around _ [.closing, .closing, .closing]

namespace Report

theorem sum_detailCount (findings : List Finding) :
    (findings.map Finding.detailCount).sum = findings.countP fun f => f.moreInfo.isSome := by
  induction findings with
  | nil => rfl
  | cons f rest ih =>
    rw [List.map_cons, List.sum_cons, ih, List.countP_cons, Nat.add_comm]
    rfl

/-- Buckets without a table have no detail either. -/
theorem sum_nonEmptyBuckets (r : Report) :
    (r.nonEmptyBuckets.map fun b => ((r.inBucket b).map Finding.detailCount).sum).sum =
      r.detailCount := by
  have shown (b : Bucket) : ((r.inBucket b).map Finding.detailCount).sum =
      sectionCount (r.shapes b) := by
    rw [sum_detailCount, shapes, sectionCount_map_shape]
  simp only [shown]
  rw [← sum_tables, ← map_shapes_nonEmptyBuckets, List.map_map]
  rfl

/-- A report takes one number for each detail. -/
theorem opens_steps (r : Report) : Numbered.Opens (fun row => r.steps row) r.detailCount := by
  have tables := Numbered.Opens.all fun b (_ : b ∈ r.nonEmptyBuckets) =>
    b.opens_steps (r.inBucket b)
  rw [sum_nonEmptyBuckets] at tables
  have whole := tables.around r.summary.steps []
  simp only [List.append_nil] at whole
  exact whole

/-- **Only the numbers of details are open** in the markup of a report, each in two places. -/
theorem fills_html (r : Report) : Fills (fun row => r.html row) (twice 0 r.detailCount) :=
  (r.opens_steps.lays 0).fills_render

end Report

end WorkflowLint
