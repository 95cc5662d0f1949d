import Mathlib.Data.List.Count
import WorkflowLint.Proofs.Report.Tags

/-!
# Numbers of details

`Numbers` says of tags that the details in them have the numbers from `row` on, each one taken by
one link and by the block that the link is followed by. It holds of a row, so it holds of rows one
after the other (`Numbers.numbered`), of the tables of a report and of any number of reports.
-/

set_option autoImplicit false

namespace WorkflowLint

open Markup

/-- The tag is a link to a detail. -/
def isToggle (tag : String) : Bool :=
  "<a class=\"more-info-toggle\" data-index=\"".toList.isPrefixOf tag.toList

/-- The tag is that of a detail. -/
def isBlock (tag : String) : Bool := "<div id=\"more-info-".toList.isPrefixOf tag.toList

def opensElement (tag : String) : Bool :=
  match effect tag with
  | .opens _ => true
  | _ => false

/-- The links to details, each with the first element that is opened behind it. -/
def links : List String → List (String × Option String)
  | [] => []
  | tag :: rest =>
    if isToggle tag then (tag, rest.find? opensElement) :: links rest else links rest

/-- The details in the tags have the `count` numbers from `row` on, in this order. -/
structure Numbers (ts : List String) (row count : Nat) : Prop where
  linked : ∀ rest, links (ts ++ rest) =
    (List.range' row count).map (fun n => (toggle n, some (block n))) ++ links rest
  blocks : ts.filter isBlock = (List.range' row count).map block

/-- The tag has nothing to do with a detail. -/
def Unnumbered (tag : String) : Prop := isToggle tag = false ∧ isBlock tag = false

namespace Numbers

theorem none {ts : List String} (h : ∀ tag ∈ ts, Unnumbered tag) (row : Nat) :
    Numbers ts row 0 where
  linked rest := by
    induction ts with
    | nil => rfl
    | cons tag ts ih =>
      obtain ⟨here, others⟩ := List.forall_mem_cons.1 h
      rw [List.cons_append, links, here.1]
      exact ih others
  blocks := by
    have : ∀ tag ∈ ts, ¬isBlock tag = true := fun tag ht => by simp [(h tag ht).2]
    rw [List.filter_eq_nil_iff.2 this]
    rfl

theorem append {a b : List String} {row m n : Nat} (ha : Numbers a row m)
    (hb : Numbers b (row + m) n) : Numbers (a ++ b) row (m + n) where
  linked rest := by
    rw [List.append_assoc, ha.linked, hb.linked, ← List.append_assoc, ← List.map_append,
      List.range'_append_1]
  blocks := by
    rw [List.filter_append, ha.blocks, hb.blocks, ← List.map_append, List.range'_append_1]

/-- Tags without a number in front change nothing. -/
theorem behind {a b : List String} {row n : Nat} (ha : Numbers a row 0) (hb : Numbers b row n) :
    Numbers (a ++ b) row n := by
  have both := append ha hb
  rw [Nat.zero_add] at both
  exact both

/-- Numbered parts one after the other are numbered through. -/
theorem numbered {β : Type} {part : Nat → β → List String} {count : β → Nat}
    (h : ∀ b row, Numbers (part row b) row (count b)) (row : Nat) (list : List β) :
    Numbers (numbered part count row list) row (list.map count).sum := by
  induction list generalizing row with
  | nil => exact none (fun _ ht => absurd ht List.not_mem_nil) row
  | cons b rest ih => exact append (h b row) (ih (row + count b))

end Numbers

/-! ### Tags without a number -/

/-- Links and blocks are told by the first letter of their element already. -/
theorem unnumbered_of_toList {tag : String} {c : Char} {cs : List Char}
    (h : tag.toList = '<' :: c :: cs) (ha : c ≠ 'a') (hd : c ≠ 'd') : Unnumbered tag := by
  constructor
  · simp [isToggle, h, List.isPrefixOf_cons_cons, ha.symm]
  · simp [isBlock, h, List.isPrefixOf_cons_cons, hd.symm]

theorem unnumbered_lineBreak : Unnumbered lineBreak :=
  unnumbered_of_toList (show lineBreak.toList = '<' :: 'b' :: "r />".toList by decide) (by decide)
    (by decide)

theorem unnumbered_closingTag (name : String) : Unnumbered (closingTag name) :=
  unnumbered_of_toList (toList_closingTag name) (by decide) (by decide)

theorem unnumbered_openingTag {name : String} (attributes : String)
    (h : name.toList.head?.any fun c => c != 'a' && c != 'd') :
    Unnumbered (openingTag name attributes) := by
  cases hname : name.toList with
  | nil =>
    rw [hname] at h
    cases h
  | cons c cs =>
    obtain ⟨tail, chars, -⟩ := toList_openingTag name attributes
    rw [hname] at h chars
    simp only [List.head?_cons, Option.any_some, Bool.and_eq_true, bne_iff_ne] at h
    exact unnumbered_of_toList chars h.1 h.2

theorem unnumbered_breaks (count : Nat) : ∀ tag ∈ breaks count, Unnumbered tag := by
  intro tag h
  rw [List.eq_of_mem_replicate h]
  exact unnumbered_lineBreak

namespace Numbers

variable {ts : List String} {row n : Nat} {name : String}

theorem single {tag : String} (h : Unnumbered tag) (row : Nat) : Numbers [tag] row 0 :=
  none (List.forall_mem_singleton.2 h) row

theorem breaks (count row : Nat) : Numbers (breaks count) row 0 :=
  none (unnumbered_breaks count) row

/-- An element that is no detail has the numbers of what it encloses. -/
theorem enclosed {attributes : String} (opening : Unnumbered (openingTag name attributes))
    (h : Numbers ts row n) : Numbers (enclosed name attributes ts) row n := by
  have front := behind (single opening row) h
  exact append front (single (unnumbered_closingTag name) (row + n))

theorem element (name : String) (hn : name.toList.head?.any fun c => c != 'a' && c != 'd')
    (attributes : String) (h : Numbers ts row n) :
    Numbers (Markup.enclosed name attributes ts) row n :=
  enclosed (unnumbered_openingTag attributes hn) h

end Numbers

/-! ### Tags with a number -/

theorem isToggle_toggle (row : Nat) : isToggle (toggle row) = true := by
  unfold isToggle
  rw [toList_toggle, List.append_assoc, List.isPrefixOf_iff_prefix]
  exact List.prefix_append _ _

theorem toList_block (row : Nat) :
    (block row).toList = "<div id=\"more-info-".toList ++ (toString row).toList ++
      "\" class=\"more-info\">".toList := by
  unfold block
  simp only [String.toList_append]

theorem isBlock_block (row : Nat) : isBlock (block row) = true := by
  unfold isBlock
  rw [toList_block, List.append_assoc, List.isPrefixOf_iff_prefix]
  exact List.prefix_append _ _

theorem isBlock_toggle (row : Nat) : isBlock (toggle row) = false := by
  simp [isBlock, toList_toggle, List.isPrefixOf_cons_cons]

theorem isToggle_block (row : Nat) : isToggle (block row) = false := by
  simp [isToggle, toList_block, List.isPrefixOf_cons_cons]

theorem opensElement_block (row : Nat) : opensElement (block row) = true := by
  have div : "div" ∈ elements := by decide
  rw [← openingTag_block, opensElement, effect_openingTag div]

theorem opensElement_closingTag {name : String} (h : name ∈ elements) :
    opensElement (closingTag name) = false := by
  rw [opensElement, effect_closingTag h]

/-! ### Each number once -/

theorem eq_of_toList_toString {m n : Nat} (h : (toString m).toList = (toString n).toList) :
    m = n := by
  rw [Nat.toString_eq_ofList_toDigits, Nat.toString_eq_ofList_toDigits, String.toList_ofList,
    String.toList_ofList] at h
  rw [← Nat.ofDigitChars_ten_toDigits (n := m), h, Nat.ofDigitChars_ten_toDigits]

theorem toggle_injective : Function.Injective toggle := by
  intro m n h
  have chars := congrArg String.toList h
  rw [toList_toggle, toList_toggle] at chars
  exact eq_of_toList_toString (List.append_cancel_left (List.append_cancel_right chars))

theorem block_injective : Function.Injective block := by
  intro m n h
  have chars := congrArg String.toList h
  rw [toList_block, toList_block] at chars
  exact eq_of_toList_toString (List.append_cancel_left (List.append_cancel_right chars))

theorem map_fst_links (ts : List String) : (links ts).map Prod.fst = ts.filter isToggle := by
  induction ts with
  | nil => rfl
  | cons tag rest ih =>
    rw [links, List.filter_cons]
    split
    · rw [List.map_cons, ih]
    · exact ih

namespace Numbers

variable {ts : List String} {row k : Nat}

theorem links_eq (h : Numbers ts row k) :
    links ts = (List.range' row k).map fun n => (toggle n, some (block n)) := by
  have whole := h.linked []
  rw [List.append_nil] at whole
  rw [whole, links, List.append_nil]

theorem toggles (h : Numbers ts row k) : ts.filter isToggle = (List.range' row k).map toggle := by
  rw [← map_fst_links, h.links_eq, List.map_map]
  rfl

theorem count_toggle (h : Numbers ts row k) (n : Nat) :
    ts.count (toggle n) = if row ≤ n ∧ n < row + k then 1 else 0 := by
  rw [← List.count_filter (isToggle_toggle n), h.toggles,
    List.count_map_of_injective _ _ toggle_injective, List.count_range_1']

theorem count_block (h : Numbers ts row k) (n : Nat) :
    ts.count (block n) = if row ≤ n ∧ n < row + k then 1 else 0 := by
  rw [← List.count_filter (isBlock_block n), h.blocks,
    List.count_map_of_injective _ _ block_injective, List.count_range_1']

end Numbers

/-! ### Rows, tables, reports -/

/-- A link takes its number together with the block behind it. -/
theorem Numbers.link (row : Nat) :
    Numbers [toggle row, closingTag "a", closingTag "small", block row] row 1 where
  linked rest := by
    have anchor : opensElement (closingTag "a") = false := opensElement_closingTag (by decide)
    have small : opensElement (closingTag "small") = false := opensElement_closingTag (by decide)
    have found : (closingTag "a" :: closingTag "small" :: block row :: rest).find? opensElement =
        some (block row) := by
      rw [List.find?_cons_of_neg (by simp [anchor]), List.find?_cons_of_neg (by simp [small]),
        List.find?_cons_of_pos (opensElement_block row)]
    have behind : links (closingTag "a" :: closingTag "small" :: block row :: rest) = links rest := by
      simp only [links, (unnumbered_closingTag _).1, isToggle_block, Bool.false_eq_true, if_false]
    show links (toggle row :: closingTag "a" :: closingTag "small" :: block row :: rest) = _
    rw [links, if_pos (isToggle_toggle row), found, behind]
    rfl
  blocks := by
    simp [isBlock_toggle, isBlock_block, (unnumbered_closingTag _).2]

namespace Shape

/-- A detail takes one number, and no detail takes none. -/
theorem numbers_detail (s : Shape) (row : Nat) : Numbers (s.detailTags row) row s.count := by
  unfold detailTags count
  cases s.detail with
  | none => exact Numbers.none (fun _ h => absurd h List.not_mem_nil) row
  | some lines =>
    have small : Unnumbered (openingTag "small" "") := unnumbered_openingTag "" (by decide)
    have front := (Numbers.single small row).behind (Numbers.link row)
    have inner := front.append (Numbers.breaks lines (row + 1))
    have whole := inner.append (Numbers.single (unnumbered_closingTag "div") (row + 1))
    simpa using whole

theorem numbers_tags (s : Shape) (row : Nat) : Numbers (s.tags row) row s.count := by
  have icon (a : String) : Numbers (enclosed "i" a []) row 0 :=
    Numbers.element "i" (by decide) a (Numbers.breaks 0 row)
  have description : Numbers (enclosed "span" "" (breaks s.description)) row 0 :=
    Numbers.element "span" (by decide) "" (Numbers.breaks s.description row)
  have title : Numbers (enclosed "td" "class=\"item-row\"" (breaks s.title)) row 0 :=
    Numbers.element "td" (by decide) _ (Numbers.breaks s.title row)
  have inner (a a' : String) : Numbers (enclosed "td" a
      (enclosed "i" a' [] ++ enclosed "span" "" (breaks s.description) ++ s.detailTags row))
      row s.count :=
    Numbers.element "td" (by decide) a (((icon a').behind description).behind (s.numbers_detail row))
  exact Numbers.element "tr" (by decide) _ (title.behind (inner _ _))

end Shape

theorem numbers_sectionTags (shapes : List Shape) (row : Nat) :
    Numbers (sectionTags row shapes) row (sectionCount shapes) := by
  have heading : Numbers (enclosed "h3" "" []) row 0 :=
    Numbers.element "h3" (by decide) "" (Numbers.breaks 0 row)
  have label : Numbers (enclosed "th" "" []) row 0 :=
    Numbers.element "th" (by decide) "" (Numbers.breaks 0 row)
  have labels := Numbers.element "tr" (by decide) "" (label.behind label)
  have head := Numbers.element "thead" (by decide) "" labels
  have rows := Numbers.numbered Shape.numbers_tags row shapes
  have body := Numbers.element "tbody" (by decide) "" rows
  have table := Numbers.element "table" (by decide) "class=\"analysis-table\"" (head.behind body)
  exact Numbers.enclosed (by constructor <;> decide) (heading.behind table)

theorem numbers_summaryTags (row : Nat) : Numbers summaryTags row 0 := by
  have span (a : String) : Numbers (enclosed "span" a []) row 0 :=
    Numbers.element "span" (by decide) a (Numbers.breaks 0 row)
  exact Numbers.enclosed (by constructor <;> decide) ((span _).behind ((span _).behind
    ((span _).behind ((span _).behind (Numbers.breaks 0 row)))))

/-- The details of a report have the numbers from `row` on. -/
theorem numbers_reportTags (shapes : Bucket → List Shape) (row : Nat) :
    Numbers (reportTags shapes row) row ((tables shapes).map sectionCount).sum :=
  (numbers_summaryTags row).behind (Numbers.numbered numbers_sectionTags row (tables shapes))

theorem numbers_failureTags (lines row : Nat) : Numbers (failureTags lines) row 0 := by
  have icon (a : String) : Numbers (enclosed "i" a []) row 0 :=
    Numbers.element "i" (by decide) a (Numbers.breaks 0 row)
  have message := Numbers.element "span" (by decide) "class=\"message-text\""
    (Numbers.breaks lines row)
  exact Numbers.enclosed (by constructor <;> decide) ((icon _).behind message)

/-- How many findings of a report have a detail. -/
def Report.detailCount (r : Report) : Nat :=
  (Bucket.all.flatMap r.inBucket).countP fun f => f.moreInfo.isSome

theorem sectionCount_map_shape (findings : List Finding) :
    sectionCount (findings.map Finding.shape) = findings.countP fun f => f.moreInfo.isSome := by
  unfold sectionCount
  induction findings with
  | nil => rfl
  | cons f rest ih =>
    rw [List.map_cons, List.map_cons, List.sum_cons, ih, List.countP_cons, Nat.add_comm]
    unfold Finding.shape Shape.count
    cases f.moreInfo <;> rfl

/-- Tables without a row, which are left out, take no number. -/
theorem sum_sectionCount_filter (list : List (List Shape)) :
    ((list.filter fun fs => !fs.isEmpty).map sectionCount).sum = (list.map sectionCount).sum := by
  induction list with
  | nil => rfl
  | cons fs rest ih =>
    cases fs with
    | nil =>
      rw [List.map_cons, List.sum_cons, ← ih]
      exact (Nat.zero_add _).symm
    | cons f fs => exact congrArg (sectionCount (f :: fs) + ·) ih

theorem Report.sum_tables (r : Report) :
    ((tables r.shapes).map sectionCount).sum = r.detailCount := by
  unfold tables Report.detailCount
  rw [sum_sectionCount_filter, List.map_map, List.countP_flatMap]
  congr 1
  refine List.map_congr_left fun b _ => ?_
  exact sectionCount_map_shape (r.inBucket b)

end WorkflowLint
