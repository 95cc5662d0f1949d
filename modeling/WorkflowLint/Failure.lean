/-!
# Failures

What ends an analysis without a report. A violated rule is never a failure: it is a finding.
-/

set_option autoImplicit false

namespace WorkflowLint

/-- The part of an analysis that failed. -/
inductive Phase where
  /-- The document is not a JSON object. -/
  | parse
  /-- The document is no workflow. -/
  | shape
  /-- The configuration cannot be read. -/
  | config
  deriving DecidableEq, Inhabited

namespace Phase

def name : Phase → String
  | .parse => "Parse"
  | .shape => "Structure"
  | .config => "Config"

def code : Phase → String
  | .parse => "P001"
  | .shape => "S001"
  | .config => "C001"

end Phase

/-- A phase and what went wrong in it. -/
structure Failure where
  phase : Phase
  message : String
  deriving DecidableEq, Inhabited

namespace Failure

def code (f : Failure) : String := f.phase.code

/-- The message behind its phase and code. -/
def display (f : Failure) : String :=
  "[" ++ f.phase.name ++ ":" ++ f.code ++ "] " ++ f.message

end Failure

end WorkflowLint
