import WorkflowLint.Report.Basic
import WorkflowLint.Text.Lines

/-!
# The report as text

Each section has its heading, the findings with their details indented below them, and an empty
line; one line with the counts ends the text. `textEntries` holds what is written before each line
feed, an entry at a time.
-/

set_option autoImplicit false

namespace WorkflowLint

/-- The name of the severity, filled up with blanks to the width of the longest. -/
def Severity.padded (s : Severity) : String :=
  s.name ++ String.ofList (List.replicate (7 - s.name.length) ' ')

namespace Finding

def textEntry (f : Finding) : String :=
  "  [" ++ f.severity.padded ++ "] " ++ f.code ++ " " ++ f.title ++ ": " ++ f.description

/-- The lines of the detail, indented. -/
def detailEntries (f : Finding) : List String :=
  match f.moreInfo with
  | some text => (Text.lines text).map fun line => "              " ++ line
  | none => []

end Finding

/-- The entries of a section. -/
def Bucket.textEntries (bucket : Bucket) (findings : List Finding) : List String :=
  bucket.title :: findings.flatMap (fun f => f.textEntry :: f.detailEntries) ++ [""]

def Summary.text (s : Summary) : String :=
  toString s.success ++ " success, " ++ toString s.info ++ " info, " ++ toString s.warning ++
    " warning, " ++ toString s.error ++ " error"

namespace Report

/-- The buckets with findings, in the order of presentation. -/
def nonEmptyBuckets (r : Report) : List Bucket :=
  Bucket.all.filter fun b => !(r.inBucket b).isEmpty

def textEntries (r : Report) : List String :=
  r.nonEmptyBuckets.flatMap (fun b => b.textEntries (r.inBucket b)) ++ [r.summary.text]

/-- The text of the report. -/
def text (r : Report) : String := String.join (r.textEntries.map fun entry => entry ++ "\n")

end Report

end WorkflowLint
