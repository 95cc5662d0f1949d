import WorkflowLint.Failure
import WorkflowLint.Markup.Basic
import WorkflowLint.Markup.Escape
import WorkflowLint.Report.Text

/-!
# The report as markup

A line with the counts, then a table for each bucket with findings. A detail is a block of its own
with a number, by which the link above it opens the block. What may hold details is written from the
number of the next detail and says which number comes after its own (`Numbered`), so a page that
goes on from there never repeats a number.
-/

set_option autoImplicit false

namespace WorkflowLint

open Markup (Step)

/-- The picture that goes with a severity. -/
def Severity.icon : Severity → String
  | .success => "check"
  | .info => "info"
  | .warning => "exclamation-triangle"
  | .error => "times"

/-- Steps of markup, and the number of the next detail behind them. -/
abbrev Numbered := List Step × Nat

/-- The items one after the other, numbered through. -/
def Numbered.all {α : Type} (item : Nat → α → Numbered) : Nat → List α → Numbered
  | row, [] => ([], row)
  | row, a :: rest =>
    let first := item row a
    let others := all item first.2 rest
    (first.1 ++ others.1, others.2)

namespace Finding

/-- The detail as a block with the given number, behind the link that opens it. -/
def detailSteps (row : Nat) (f : Finding) : Numbered :=
  match f.moreInfo with
  | none => ([], row)
  | some text =>
    ([.line ("<small><a class=\"more-info-toggle\" data-index=\"" ++ toString row ++
        "\">(details)</a></small>"),
      .element "div" ("id=\"more-info-" ++ toString row ++ "\" class=\"more-info\"")
        (Markup.escape text)],
      row + 1)

/-- A row of a table; a detail has the given number. -/
def steps (row : Nat) (f : Finding) : Numbered :=
  let detail := f.detailSteps row
  ([.opening "tr" ("data-code=\"" ++ f.code ++ "\""),
    .element "td" "class=\"item-row\"" (Markup.escape f.title),
    .opening "td" ("class=\"analyzer-row " ++ f.severity.name ++ "\""),
    .element "i" ("class=\"fa fa-fw fa-" ++ f.severity.icon ++ " mr-1\"") "",
    .element "span" "" (Markup.escape f.description)] ++
  detail.1 ++ [.closing, .closing], detail.2)

end Finding

/-- The table of a bucket; the details are numbered from `row` on. -/
def Bucket.steps (bucket : Bucket) (row : Nat) (findings : List Finding) : Numbered :=
  let rows := Numbered.all Finding.steps row findings
  ([.opening "div" "class=\"analysis-section\"",
    .element "h3" "" bucket.title,
    .opening "table" "class=\"analysis-table\"",
    .opening "thead" "",
    .opening "tr" "",
    .element "th" "" "Item",
    .element "th" "" "Details",
    .closing,
    .closing,
    .opening "tbody" ""] ++
  rows.1 ++ [.closing, .closing, .closing], rows.2)

def Summary.steps (s : Summary) : List Step :=
  .opening "div" "class=\"analysis-summary\"" ::
    Severity.all.map (fun severity =>
      .element "span" ("class=\"summary-count " ++ severity.name ++ "\"")
        (severity.name ++ ": " ++ toString (s.get severity))) ++
    [.closing]

namespace Report

/-- The report; the details are numbered from `row` on. -/
def steps (r : Report) (row : Nat) : Numbered :=
  let tables := Numbered.all (fun row b => b.steps row (r.inBucket b)) row r.nonEmptyBuckets
  (r.summary.steps ++ tables.1, tables.2)

/-- The markup of the report; the details are numbered from `row` on. -/
def html (r : Report) (row : Nat) : String := Markup.render (r.steps row).1

end Report

namespace Failure

def steps (f : Failure) : List Step :=
  [.opening "div" "class=\"message message-error\"",
    .element "i" "class=\"fas fa-exclamation-circle\"" "",
    .element "span" "class=\"message-text\""
      (Markup.escape ("Error analyzing workflow: " ++ f.message))]

/-- The markup of a failure, a single message. -/
def html (f : Failure) : String := Markup.render f.steps

end Failure

end WorkflowLint
