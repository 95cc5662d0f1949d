import WorkflowLint.Json.Writer
import WorkflowLint.Report.Basic

/-!
# The report as JSON

An object of the sections under the keys of their buckets, and the counts.
-/

set_option autoImplicit false

namespace WorkflowLint

/-- A finding; without a detail there is no member for it. -/
def Finding.toJson (f : Finding) : Json :=
  .obj ([("code", .str f.code), ("severity", .str f.severity.name), ("title", .str f.title),
    ("description", .str f.description)] ++
    match f.moreInfo with
    | some text => [("moreInfo", .str text)]
    | none => [])

def Sections.toJson (sections : Sections) : Json :=
  .obj (sections.map fun s => (s.1.key, .arr (s.2.map Finding.toJson)))

def Summary.toJson (s : Summary) : Json :=
  .obj (Severity.all.map fun severity => (severity.name, .num (.int (s.get severity))))

namespace Report

def toMembers (r : Report) : List (String × Json) :=
  [("buckets", r.sections.toJson), ("summary", r.summary.toJson)]

def toJson (r : Report) : Json := .obj r.toMembers

end Report

end WorkflowLint
