import WorkflowLint.Config.Reader
import WorkflowLint.Rules.Atomics
import WorkflowLint.Rules.Properties
import WorkflowLint.Rules.Targets
import WorkflowLint.Rules.Triggers
import WorkflowLint.Rules.Variables

/-!
# Analysis

An analysis makes five passes over a document. A pass is the list of findings it adds, each with its
bucket; no pass looks at what another one found. Only two things end an analysis early: a text that
is no document, and a document that does not state its mode.
-/

set_option autoImplicit false

namespace WorkflowLint

/-- Findings with their buckets, in the order in which they are added to a report. -/
abbrev Pass := List (Bucket × Finding)

namespace Pass

/-- The pass that adds all findings to one bucket. -/
def into (bucket : Bucket) (findings : List Finding) : Pass := findings.map fun f => (bucket, f)

def properties (mode : Mode) (d : Document) : Pass := into .properties (Rules.properties mode d)

def declarations (config : Config) (d : Document) : Pass :=
  into .variables (Rules.declarations config d)

def targets (config : Config) (d : Document) : Pass := into .targets (Rules.targets config d)

def triggers (d : Document) : Pass := into .triggers (Rules.triggers d)

def actions (mode : Mode) (d : Document) : Pass :=
  into .activities (Rules.activities mode d) ++ into .atomics (Rules.atomics d) ++
    into .statistics (Rules.statistics d)

end Pass

namespace Document

/-- Everything that is found in a document of this mode. -/
def findings (d : Document) (config : Config) (mode : Mode) : Pass :=
  Pass.properties mode d ++ Pass.declarations config d ++ Pass.targets config d ++
    Pass.triggers d ++ Pass.actions mode d

/-- The report on a document. -/
def report (d : Document) (config : Config) : Except Failure Report :=
  match d.mode? with
  | .error gap => .error ⟨.shape, gap.message⟩
  | .ok mode => .ok (Report.ofPushes (d.findings config mode))

end Document

/-- The report on the document that a text holds. -/
def analyze (text : String) (config : Config) : Except Failure Report :=
  match Document.ofText text with
  | .error f => .error f
  | .ok d => d.report config

end WorkflowLint
