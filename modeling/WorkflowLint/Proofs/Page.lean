import WorkflowLint.Page
import WorkflowLint.Proofs.Report.Numbering

/-!
# Numbers of details on a page

However many texts a page analyses, the details of all its answers are numbered through from 1. An
answer takes one number for each detail of its report (`Page.numbers_analyze`), so the number that
the page remembers counts the details shown so far.
-/

set_option autoImplicit false

namespace WorkflowLint

open Markup

/-- What an answer shows. -/
def Page.Answer.html : Page.Answer → String
  | .success html _ => html
  | .failure html _ => html

theorem Page.html_success (html : String) (r : Report) : (Answer.success html r).html = html := rfl

theorem Page.html_failure (html : String) (f : Failure) : (Answer.failure html f).html = html := rfl

/-- How many findings on a text have a detail; a text that gets no report has none. -/
def detailsOf (config : Config) (text : String) : Nat :=
  match analyze text config with
  | .ok report => report.detailCount
  | .error _ => 0

namespace Page

/-- The page when the texts are analysed. -/
def after (p : Page) (texts : List String) : Page :=
  texts.foldl (fun p text => (p.analyze text).2) p

/-- The tags of all that the page shows for the texts. -/
def shown (p : Page) (texts : List String) : List String :=
  (p.analyzeAll texts).flatMap fun answer => tags answer.html

theorem analyze_of_error {text : String} {p : Page} {f : Failure}
    (h : WorkflowLint.analyze text p.config = .error f) :
    p.analyze text = (.failure f.html f, p) := by
  rw [analyze, h]

theorem analyze_of_ok {text : String} {p : Page} {report : Report}
    (h : WorkflowLint.analyze text p.config = .ok report) :
    p.analyze text = (.success (report.html p.nextRow) report,
      { p with nextRow := (report.steps p.nextRow).2 }) := by
  rw [analyze, h]
  rfl

/-- A failure shows no detail. -/
theorem numbers_failure (f : Failure) (row : Nat) : Numbers (tags f.html) row 0 := by
  have read : tags f.html = _ := f.finishes_html.tags
  rw [read]
  exact numbers_failureTags _ row

/-- An answer takes the numbers from the page's on, one for each detail. -/
theorem numbers_analyze (p : Page) (text : String) :
    Numbers (tags (p.analyze text).1.html) p.nextRow (detailsOf p.config text) ∧
      (p.analyze text).2 = { p with nextRow := p.nextRow + detailsOf p.config text } := by
  unfold detailsOf
  cases h : WorkflowLint.analyze text p.config with
  | error f =>
    rw [analyze_of_error h, html_failure]
    exact ⟨numbers_failure f p.nextRow, rfl⟩
  | ok report =>
    have codes : report.HasRuleCodes := fun b f hf =>
      Rules.mem_codes_of_mem_bucket (Rules.codesOf_report h b f hf)
    have read : tags (report.html p.nextRow) = reportTags report.shapes p.nextRow :=
      (Report.finishes_html codes p.nextRow).tags
    have numbers := numbers_reportTags report.shapes p.nextRow
    have next := (Report.writes codes p.nextRow).next
    rw [Report.sum_tables] at numbers next
    rw [analyze_of_ok h, html_success, read, next]
    exact ⟨numbers, rfl⟩

theorem shown_cons (p : Page) (text : String) (rest : List String) :
    p.shown (text :: rest) = tags (p.analyze text).1.html ++ (p.analyze text).2.shown rest :=
  rfl

/-- So do the answers to texts one after the other. -/
theorem numbers_shown (p : Page) (texts : List String) :
    Numbers (p.shown texts) p.nextRow (texts.map (detailsOf p.config)).sum ∧
      p.after texts = { p with nextRow := p.nextRow + (texts.map (detailsOf p.config)).sum } := by
  induction texts generalizing p with
  | nil => exact ⟨Numbers.none (fun _ h => absurd h List.not_mem_nil) p.nextRow, rfl⟩
  | cons text rest ih =>
    obtain ⟨first, next⟩ := p.numbers_analyze text
    obtain ⟨others, last⟩ := ih (p.analyze text).2
    have after : p.after (text :: rest) = (p.analyze text).2.after rest := rfl
    rw [next] at others last
    rw [shown_cons, after, next, List.map_cons, List.sum_cons, ← Nat.add_assoc]
    exact ⟨first.append others, last⟩

/-- How many details the page shows for the texts. -/
def total (config : Config) (texts : List String) : Nat := (texts.map (detailsOf config)).sum

/-- **Details are numbered through**: over all answers of a page, the details have the numbers from
1 on, each number in one link and in the one block that is opened next behind it. A failed analysis
and a row without detail take no number. -/
theorem details_numbered (config : Config) (texts : List String) :
    links ((new config).shown texts) =
        (List.range' 1 (total config texts)).map (fun n => (toggle n, some (block n))) ∧
      ((new config).shown texts).filter isBlock =
        (List.range' 1 (total config texts)).map block ∧
      (∀ n, ((new config).shown texts).count (toggle n) =
          (if 1 ≤ n ∧ n < 1 + total config texts then 1 else 0) ∧
        ((new config).shown texts).count (block n) =
          (if 1 ≤ n ∧ n < 1 + total config texts then 1 else 0)) ∧
      (new config).after texts = ⟨config, 1 + total config texts⟩ ∧
      (∀ text f, WorkflowLint.analyze text config = .error f →
        ((new config).after texts).analyze text = (.failure f.html f, (new config).after texts) ∧
          links (tags f.html) = [] ∧ (tags f.html).filter isBlock = []) ∧
      ∀ (f : Finding) (row : Nat), f.moreInfo = none →
        (f.steps row).2 = row ∧ links (f.shape.tags row) = [] ∧
          (f.shape.tags row).filter isBlock = [] := by
  obtain ⟨numbers, last⟩ := (new config).numbers_shown texts
  refine ⟨numbers.links_eq, numbers.blocks, fun n => ⟨numbers.count_toggle n, numbers.count_block n⟩,
    last, fun text f h => ?_, fun f row h => ?_⟩
  · have configured : ((new config).after texts).config = config := by
      rw [last]
      rfl
    have none := numbers_failure f 1
    rw [← configured] at h
    exact ⟨analyze_of_error h, none.links_eq, none.blocks⟩
  · have count : f.shape.count = 0 := by
      unfold Finding.shape Shape.count
      rw [h]
      rfl
    have none := f.shape.numbers_tags row
    have next := (f.writes_detail row).next
    rw [count] at none next
    exact ⟨next, none.links_eq, none.blocks⟩

end Page

end WorkflowLint
