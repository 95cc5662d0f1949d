import WorkflowLint.Analysis
import WorkflowLint.Report.Json
import WorkflowLint.Report.Markup

/-!
# Pages

A page analyses one text after another with one configuration and shows all the reports. The only
thing it remembers is the number of the next detail, so the details of all reports on it are
numbered through; a failed analysis uses no number.
-/

set_option autoImplicit false

namespace WorkflowLint

/-- A configuration and the number of the next detail. -/
structure Page where
  config : Config
  nextRow : Nat

namespace Page

/-- What a page answers to a text. -/
inductive Answer where
  | success (html : String) (report : Report)
  | failure (html : String) (failure : Failure)

/-- A page that has shown nothing. -/
def new (config : Config) : Page := ⟨config, 1⟩

/-- The markup of a report; the page goes on with the number that comes after its details. -/
def display (p : Page) (report : Report) : String × Page :=
  (report.html p.nextRow, { p with nextRow := (report.steps p.nextRow).2 })

/-- Analyses a text and shows the report or the failure. -/
def analyze (p : Page) (text : String) : Answer × Page :=
  match WorkflowLint.analyze text p.config with
  | .ok report =>
    let (html, p) := p.display report
    (.success html report, p)
  | .error f => (.failure f.html f, p)

/-- Analyses texts one after the other. -/
def analyzeAll (p : Page) : List String → List Answer
  | [] => []
  | text :: rest =>
    let (answer, p) := p.analyze text
    answer :: analyzeAll p rest

end Page

/-- The members that tell what failed. -/
def Failure.toMembers (f : Failure) : List (String × Json) :=
  [("code", .str f.code), ("phase", .str f.phase.name), ("message", .str f.message)]

/-- The answer to a text that is shown with the status of its analysis. -/
def Page.Answer.toJson : Page.Answer → Json
  | .success html report =>
    .obj [("status", .str "success"), ("html", .str html), ("report", report.toJson)]
  | .failure html f => .obj (("status", .str "error") :: ("html", .str html) :: f.toMembers)

/-- The answer to a text of which only the report is wanted. -/
def analysisJson : Except Failure Report → Json
  | .ok report => .obj (("status", .str "success") :: report.toMembers)
  | .error f => .obj (("status", .str "error") :: f.toMembers)

end WorkflowLint
