import Mathlib.Algebra.Ring.Nat
import WorkflowLint.Proofs.Markup.Steps
import WorkflowLint.Proofs.Rules.Codes
import WorkflowLint.Report.Markup

/-!
# The tags of a report

The tags of a report depend on the `Shape` of its findings only: their codes and severities, how
many line feeds their texts have, and which of them have a detail. What the texts say otherwise does
not show in the tags.
-/

set_option autoImplicit false

namespace WorkflowLint

open Markup

/-! ### Numbered parts -/

section

variable {α β : Type} {part : Nat → β → List String} {count : β → Nat}

/-- The tags of the items one after the other; each item takes the number `row` reached and leaves
it `count` higher. -/
def numbered (part : Nat → β → List String) (count : β → Nat) : Nat → List β → List String
  | _, [] => []
  | row, b :: rest => part row b ++ numbered part count (row + count b) rest

/-- Numbered steps have these tags and take so many numbers from `row` on. -/
structure Numbered.Writes (n : Numbered) (row : Nat) (ts : List String) (count : Nat) : Prop where
  nested : Nested n.1 ts
  next : n.2 = row + count

/-- Items that are written by what `key` keeps of them are numbered through. -/
theorem Numbered.all_writes {item : Nat → α → Numbered} {key : α → β} {list : List α}
    (h : ∀ a ∈ list, ∀ row, (item row a).Writes row (part row (key a)) (count (key a)))
    (row : Nat) :
    (Numbered.all item row list).Writes row (numbered part count row (list.map key))
      ((list.map key).map count).sum := by
  induction list generalizing row with
  | nil => exact ⟨Nested.nil, rfl⟩
  | cons a rest ih =>
    obtain ⟨first, others⟩ := List.forall_mem_cons.1 h
    obtain ⟨nested, next⟩ := first row
    -- the rest starts from the number that the first item has reached
    have tail := ih others (item row a).2
    constructor
    · show Nested ((item row a).1 ++ (Numbered.all item (item row a).2 rest).1)
        (part row (key a) ++ numbered part count (row + count (key a)) (rest.map key))
      rw [← next]
      exact nested.append tail.nested
    · show (Numbered.all item (item row a).2 rest).2 =
        row + (count (key a) + ((rest.map key).map count).sum)
      rw [tail.next, next, Nat.add_assoc]

end

/-! ### Shapes -/

/-- What the tags of a row show of a finding; of its texts, the numbers of line feeds. -/
structure Shape where
  code : String
  severity : Severity
  title : Nat
  description : Nat
  detail : Option Nat
  deriving DecidableEq

def Finding.shape (f : Finding) : Shape :=
  ⟨f.code, f.severity, newlines f.title, newlines f.description, f.moreInfo.map newlines⟩

/-- What the tags of a report show of it. -/
def Report.shapes (r : Report) (b : Bucket) : List Shape := (r.inBucket b).map Finding.shape

/-- The link that opens the detail with a number. -/
def toggle (row : Nat) : String :=
  "<a class=\"more-info-toggle\" data-index=\"" ++ toString row ++ "\">"

/-- The tag of the detail with a number. -/
def block (row : Nat) : String :=
  "<div id=\"more-info-" ++ toString row ++ "\" class=\"more-info\">"

namespace Shape

/-- How many numbers a row takes. -/
def count (s : Shape) : Nat := s.detail.toList.length

def detailTags (row : Nat) (s : Shape) : List String :=
  match s.detail with
  | none => []
  | some lines =>
    [openingTag "small" "", toggle row, closingTag "a", closingTag "small"] ++
      block row :: breaks lines ++ [closingTag "div"]

/-- The tags of a row. -/
def tags (row : Nat) (s : Shape) : List String :=
  enclosed "tr" ("data-code=\"" ++ s.code ++ "\"")
    (enclosed "td" "class=\"item-row\"" (breaks s.title) ++
      enclosed "td" ("class=\"analyzer-row " ++ s.severity.name ++ "\"")
        (enclosed "i" ("class=\"fa fa-fw fa-" ++ s.severity.icon ++ " mr-1\"") [] ++
          enclosed "span" "" (breaks s.description) ++ s.detailTags row))

end Shape

/-- The tags of a table. -/
def sectionTags (row : Nat) (shapes : List Shape) : List String :=
  enclosed "div" "class=\"analysis-section\""
    (enclosed "h3" "" [] ++
      enclosed "table" "class=\"analysis-table\""
        (enclosed "thead" "" (enclosed "tr" "" (enclosed "th" "" [] ++ enclosed "th" "" [])) ++
          enclosed "tbody" "" (numbered Shape.tags Shape.count row shapes)))

/-- How many numbers a table takes. -/
def sectionCount (shapes : List Shape) : Nat := (shapes.map Shape.count).sum

def summaryTags : List String :=
  enclosed "div" "class=\"analysis-summary\""
    (Severity.all.flatMap fun severity =>
      enclosed "span" ("class=\"summary-count " ++ severity.name ++ "\"") [])

/-- The shapes of the tables, one for each bucket with findings. -/
def tables (shapes : Bucket → List Shape) : List (List Shape) :=
  (Bucket.all.map shapes).filter fun fs => !fs.isEmpty

/-- The tags of a report whose buckets have these shapes. -/
def reportTags (shapes : Bucket → List Shape) (row : Nat) : List String :=
  summaryTags ++ numbered sectionTags sectionCount row (tables shapes)

/-! ### Steps and their tags -/

/-- An attribute is plain if what is put into its value is. -/
theorem plain_attribute {front value back : String} (hf : Plain front.toList)
    (hv : Plain value.toList) (hb : Plain back.toList) : Plain (front ++ value ++ back).toList := by
  simp only [String.toList_append, plain_append]
  exact ⟨⟨hf, hv⟩, hb⟩

theorem plain_name (severity : Severity) : Plain severity.name.toList := by
  cases severity <;> decide

theorem plain_icon (severity : Severity) : Plain severity.icon.toList := by
  cases severity <;> decide

theorem plain_empty : Plain "".toList := plain_nil

theorem Markup.Fragment.empty : Fragment "".toList [] := Fragment.plain plain_empty

theorem openingTag_empty (name : String) : openingTag name "" = "<" ++ name ++ ">" := if_pos rfl

theorem openingTag_toggle (row : Nat) :
    openingTag "a" ("class=\"more-info-toggle\" data-index=\"" ++ toString row ++ "\"") =
      toggle row := by
  unfold openingTag toggle
  rw [if_neg (by simp)]
  simp [← String.toList_inj]

theorem openingTag_block (row : Nat) :
    openingTag "div" ("id=\"more-info-" ++ toString row ++ "\" class=\"more-info\"") =
      block row := by
  unfold openingTag block
  rw [if_neg (by simp)]
  simp [← String.toList_inj]

theorem plain_detail (row : Nat) :
    Plain ("class=\"more-info-toggle\" data-index=\"" ++ toString row ++ "\"").toList ∧
      Plain ("id=\"more-info-" ++ toString row ++ "\" class=\"more-info\"").toList :=
  ⟨plain_attribute (by decide) (plain_toString row) (by decide),
    plain_attribute (by decide) (plain_toString row) (by decide)⟩

theorem toList_toggle (row : Nat) :
    (toggle row).toList = "<a class=\"more-info-toggle\" data-index=\"".toList ++
      (toString row).toList ++ "\">".toList := by
  unfold toggle
  simp only [String.toList_append]

theorem toList_link (row : Nat) :
    ("<small><a class=\"more-info-toggle\" data-index=\"" ++ toString row ++
        "\">(details)</a></small>").toList =
      (openingTag "small" "").toList ++
        ((toggle row).toList ++ "(details)".toList ++ (closingTag "a").toList) ++
          (closingTag "small").toList := by
  rw [openingTag_empty, toList_toggle, closingTag, closingTag]
  simp

/-- The line with the link to a detail. -/
theorem fragment_link (row : Nat) :
    Fragment ("<small><a class=\"more-info-toggle\" data-index=\"" ++ toString row ++
        "\">(details)</a></small>").toList
      [openingTag "small" "", toggle row, closingTag "a", closingTag "small"] := by
  have anchor : "a" ∈ elements := by decide
  have small : "small" ∈ elements := by decide
  have text : Fragment "(details)".toList [] := Fragment.plain (by decide)
  have link := Fragment.element anchor (plain_detail row).1 text
  rw [enclosed, openingTag_toggle] at link
  rw [toList_link]
  exact Fragment.element small plain_empty link

/-- The line with the link, and the block behind it. -/
theorem Finding.writes_detail (f : Finding) (row : Nat) :
    (f.detailSteps row).Writes row (f.shape.detailTags row) f.shape.count := by
  unfold Finding.detailSteps Shape.detailTags Shape.count Finding.shape
  cases f.moreInfo with
  | none => exact ⟨Nested.nil, rfl⟩
  | some text =>
    refine ⟨?_, rfl⟩
    have div : "div" ∈ elements := by decide
    have detail := Nested.element div (plain_detail row).2 (fragment_escape text)
    rw [enclosed, openingTag_block] at detail
    exact (Nested.line (fragment_link row)).append detail

/-- The tags of a row are those of its shape. -/
theorem Finding.writes_row {f : Finding} (h : Plain f.code.toList) (row : Nat) :
    (f.steps row).Writes row (f.shape.tags row) f.shape.count := by
  have tr : "tr" ∈ elements := by decide
  have td : "td" ∈ elements := by decide
  have i : "i" ∈ elements := by decide
  have span : "span" ∈ elements := by decide
  have code : Plain ("data-code=\"" ++ f.code ++ "\"").toList :=
    plain_attribute (by decide) h (by decide)
  have analyzer : Plain ("class=\"analyzer-row " ++ f.severity.name ++ "\"").toList :=
    plain_attribute (by decide) (plain_name f.severity) (by decide)
  have icon : Plain ("class=\"fa fa-fw fa-" ++ f.severity.icon ++ " mr-1\"").toList :=
    plain_attribute (by decide) (plain_icon f.severity) (by decide)
  obtain ⟨detail, next⟩ := f.writes_detail row
  have title := Nested.element td (show Plain "class=\"item-row\"".toList by decide)
    (fragment_escape f.title)
  have picture := Nested.element i icon Fragment.empty
  have description := Nested.element span plain_empty (fragment_escape f.description)
  have inner := Nested.block td analyzer ((picture.append description).append detail)
  have whole := Nested.block tr code (title.append inner)
  refine ⟨?_, next⟩
  unfold Shape.tags
  simpa [Finding.steps, Finding.shape] using whole

/-- A table has the tags of its rows between its own. -/
theorem Bucket.writes_table (b : Bucket) {findings : List Finding}
    (h : ∀ f ∈ findings, Plain f.code.toList) (row : Nat) :
    (b.steps row findings).Writes row (sectionTags row (findings.map Finding.shape))
      (sectionCount (findings.map Finding.shape)) := by
  have div : "div" ∈ elements := by decide
  have h3 : "h3" ∈ elements := by decide
  have table : "table" ∈ elements := by decide
  have thead : "thead" ∈ elements := by decide
  have tbody : "tbody" ∈ elements := by decide
  have tr : "tr" ∈ elements := by decide
  have th : "th" ∈ elements := by decide
  obtain ⟨rows, next⟩ := Numbered.all_writes (fun f hf row => Finding.writes_row (h f hf) row) row
  have title : Fragment b.title.toList [] := Fragment.plain (by cases b <;> decide)
  have item : Fragment "Item".toList [] := Fragment.plain (by decide)
  have details : Fragment "Details".toList [] := Fragment.plain (by decide)
  have heading := Nested.element h3 plain_empty title
  have labels := (Nested.element th plain_empty item).append (Nested.element th plain_empty details)
  have head := Nested.block thead plain_empty (Nested.block tr plain_empty labels)
  have body := Nested.block tbody plain_empty rows
  have inner := Nested.block table (show Plain "class=\"analysis-table\"".toList by decide)
    (head.append body)
  have whole := Nested.block div (show Plain "class=\"analysis-section\"".toList by decide)
    (heading.append inner)
  refine ⟨?_, next⟩
  unfold sectionTags
  simpa [Bucket.steps] using whole

theorem Summary.nested_steps (s : Summary) : Nested s.steps summaryTags := by
  have div : "div" ∈ elements := by decide
  have span : "span" ∈ elements := by decide
  have counts : ∀ severity ∈ Severity.all,
      Nested [.element "span" ("class=\"summary-count " ++ severity.name ++ "\"")
          (severity.name ++ ": " ++ toString (s.get severity))]
        (enclosed "span" ("class=\"summary-count " ++ severity.name ++ "\"") []) := by
    intro severity _
    have text : Plain (severity.name ++ ": " ++ toString (s.get severity)).toList := by
      simp only [String.toList_append, plain_append]
      exact ⟨⟨plain_name severity, by decide⟩, plain_toString _⟩
    exact Nested.element span (plain_attribute (by decide) (plain_name severity) (by decide))
      (Fragment.plain text)
  exact Nested.block div (show Plain "class=\"analysis-summary\"".toList by decide)
    (Nested.map counts)

namespace Report

theorem map_shapes_nonEmptyBuckets (r : Report) : r.nonEmptyBuckets.map r.shapes = tables r.shapes := by
  unfold nonEmptyBuckets tables
  rw [List.filter_map]
  congr 2
  funext b
  simp [Report.shapes]

/-- Every code of a finding is a code of some rule. -/
def HasRuleCodes (r : Report) : Prop := ∀ b, ∀ f ∈ r.inBucket b, f.code ∈ Rules.codes

theorem plain_of_mem_codes {code : String} (h : code ∈ Rules.codes) : Plain code.toList := by
  have checked : (Rules.codes.all fun code => decide (Plain code.toList)) = true := by decide
  exact of_decide_eq_true (List.all_eq_true.1 checked code h)

/-- The tags of a report are those of its shapes. -/
theorem writes {r : Report} (h : r.HasRuleCodes) (row : Nat) :
    (r.steps row).Writes row (reportTags r.shapes row) ((tables r.shapes).map sectionCount).sum := by
  have table : ∀ b ∈ r.nonEmptyBuckets, ∀ row, (b.steps row (r.inBucket b)).Writes row
      (sectionTags row (r.shapes b)) (sectionCount (r.shapes b)) :=
    fun b _ row => b.writes_table (fun f hf => plain_of_mem_codes (h b f hf)) row
  obtain ⟨nested, next⟩ := Numbered.all_writes table row
  rw [map_shapes_nonEmptyBuckets] at nested next
  exact ⟨r.summary.nested_steps.append nested, next⟩

/-- The markup of a report has the tags of its shapes and is well nested. -/
theorem finishes_html {r : Report} (h : r.HasRuleCodes) (row : Nat) :
    Finishes [] (r.html row).toList (reportTags r.shapes row) :=
  (writes h row).nested.finishes

theorem HasRuleCodes.of_shapes_eq {r s : Report} (codes : r.HasRuleCodes)
    (same : r.shapes = s.shapes) : s.HasRuleCodes := by
  intro b f hf
  have shape : f.shape ∈ r.shapes b := by
    rw [same]
    exact List.mem_map_of_mem hf
  obtain ⟨g, hg, hgf⟩ := List.mem_map.1 shape
  have code : g.code = f.code := congrArg Shape.code hgf
  rw [← code]
  exact codes b g hg

/-- **Texts do not interfere**: reports that differ in what their texts say, but not in the numbers
of line feeds, have the same tags in the same nesting, and nothing else in them looks like a tag. -/
theorem outline_html_of_shapes_eq (row : Nat) {r s : Report} (codes : r.HasRuleCodes)
    (alike : ∀ b, r.shapes b = s.shapes b) :
    tags (r.html row) = tags (s.html row) ∧
      (∃ outlined, outline [] (tags (r.html row)) = some outlined ∧
        outline [] (tags (s.html row)) = some outlined ∧
        outlined.map Prod.snd = tags (r.html row)) ∧
      Plain (outside (r.html row)) ∧ Plain (outside (s.html row)) := by
  have same : r.shapes = s.shapes := funext alike
  have hr := finishes_html codes row
  have hs := finishes_html (codes.of_shapes_eq same) row
  rw [← same] at hs
  have tr : tags (r.html row) = reportTags r.shapes row := hr.tags
  have ts : tags (s.html row) = reportTags r.shapes row := hs.tags
  obtain ⟨outlined, ho⟩ := Option.isSome_iff_exists.1 hr.outline
  rw [tr, ts]
  exact ⟨rfl, ⟨outlined, ho, ho, map_snd_outline ho⟩, hr.outside, hs.outside⟩

/-- A report with the same text in every place. -/
def saying (text : String) : Report :=
  ofPushes [(.variables, (Finding.warning "VAR003" text text).withMoreInfo text),
    (.triggers, Finding.info "TRG001" text text)]

/-- A text that spells out markup does not add any. -/
theorem outline_html_saying :
    tags ((saying "</td><script>\n&lt;").html 7) = tags ((saying "a\nb").html 7) ∧
      (∃ outlined, outline [] (tags ((saying "</td><script>\n&lt;").html 7)) = some outlined ∧
        outline [] (tags ((saying "a\nb").html 7)) = some outlined ∧
        outlined.map Prod.snd = tags ((saying "</td><script>\n&lt;").html 7)) ∧
      Plain (outside ((saying "</td><script>\n&lt;").html 7)) ∧
      Plain (outside ((saying "a\nb").html 7)) := by
  refine outline_html_of_shapes_eq 7 (fun b => ?_) (fun b => ?_)
  · cases b <;> decide
  · cases b <;> decide

end Report

/-- The tags of a failure whose message has so many lines. -/
def failureTags (lines : Nat) : List String :=
  enclosed "div" "class=\"message message-error\""
    (enclosed "i" "class=\"fas fa-exclamation-circle\"" [] ++
      enclosed "span" "class=\"message-text\"" (breaks lines))

/-- The markup of a failure is well nested: the element that no step closes is closed at the end. -/
theorem Failure.finishes_html (f : Failure) :
    Finishes [] f.html.toList
      (failureTags (newlines ("Error analyzing workflow: " ++ f.message))) := by
  have div : "div" ∈ elements := by decide
  have i : "i" ∈ elements := by decide
  have span : "span" ∈ elements := by decide
  have picture := Nested.element i
    (show Plain "class=\"fas fa-exclamation-circle\"".toList by decide) Fragment.empty
  have message := Nested.element span (show Plain "class=\"message-text\"".toList by decide)
    (fragment_escape ("Error analyzing workflow: " ++ f.message))
  exact Nested.finishes_opening div (by decide) (picture.append message)

end WorkflowLint
