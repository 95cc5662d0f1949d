import WorkflowLint.Analysis
import WorkflowLint.CommandLine.Arguments
import WorkflowLint.CommandLine.Input
import WorkflowLint.Report.Json
import WorkflowLint.Report.Markup

/-!
# Running the command line

A run depends on the arguments and on what the files and the standard input hold (`Inputs`), and it
comes to an exit code with what is written on the two output channels (`Outcome`). The configuration
is read before the workflow, and nothing is written on the standard output of a run that fails.
-/

set_option autoImplicit false

namespace WorkflowLint.CommandLine

/-- What a run comes to. -/
structure Outcome where
  exitCode : UInt8
  stdout : String
  stderr : String
  deriving DecidableEq

namespace Outcome

def written (stdout : String) : Outcome := ⟨0, stdout, ""⟩

def failed (message : String) : Outcome := ⟨1, "", "Error: " ++ message ++ "\n"⟩

/-- The arguments make no sense. -/
def misused : Outcome := ⟨2, "", "Usage: workflow-analyzer [OPTIONS] [WORKFLOW_FILE]\n"⟩

end Outcome

/-- The configuration of a run, or why there is none. -/
def configuration (inputs : Inputs) (o : Options) : Except String Config :=
  match o.config with
  | none => .ok Config.builtIn
  | some path =>
    match inputs.file path with
    | .error e => .error ("failed to read config " ++ path ++ ": " ++ e.message)
    | .ok text => (Config.ofText text).mapError Failure.display

/-- The workflow of a run: the standard input unless a file is named. -/
def workflow (inputs : Inputs) (o : Options) : Except String String :=
  let file := o.file.filter fun path => path != "-"
  match file with
  | some path =>
    (inputs.file path).mapError fun e => "failed to read workflow " ++ path ++ ": " ++ e.message
  | none => inputs.stdin.mapError fun e => "failed to read workflow from stdin: " ++ e.message

/-- The report as it is written in a format. -/
def deliver (format : Format) (report : Report) : String :=
  match format with
  | .text => report.text
  | .json => report.toJson.pretty ++ "\n"
  | .html => report.html 1

/-- What is written on the standard output, or what went wrong. -/
def output (inputs : Inputs) (o : Options) : Except String String := do
  let config ← configuration inputs o
  let text ← workflow inputs o
  let report ← (analyze text config).mapError fun f => "error analyzing workflow: " ++ f.display
  return deliver (o.format.getD .text) report

def helpLines : List String :=
  ["Lint an exported workflow definition",
    "",
    "Usage: workflow-analyzer [OPTIONS] [WORKFLOW_FILE]",
    "",
    "Arguments:",
    "  [WORKFLOW_FILE]  Path to the workflow JSON (reads stdin when omitted or `-`)",
    "",
    "Options:",
    "      --format <FORMAT>  Output format [default: text] [possible values: text, json, html]",
    "      --config <CONFIG>  JSON file overriding the default rule settings",
    "  -h, --help             Print help",
    "  -V, --version          Print version"]

def helpText : String := String.join (helpLines.map fun line => line ++ "\n")

def versionText : String := "workflow-analyzer 0.2.1\n"

/-- What a run with these arguments comes to. -/
def run (arguments : List String) (inputs : Inputs) : Outcome :=
  match request arguments with
  | .help => .written helpText
  | .version => .written versionText
  | .misuse => .misused
  | .run o =>
    match output inputs o with
    | .ok text => .written text
    | .error message => .failed message

end WorkflowLint.CommandLine
