import WorkflowLint.Log
import WorkflowLint.Main
import WorkflowLint.Page
import WorkflowLint.Proofs.Outcome
import WorkflowLint.Proofs.Walk
import WorkflowLint.Proofs.Document.Nodes
import WorkflowLint.Proofs.Report.Buckets
import WorkflowLint.Proofs.Rules.Activities
import WorkflowLint.Proofs.Markup.Steps
import WorkflowLint.Proofs.Rules.Codes
import WorkflowLint.Proofs.Report.Tags
import WorkflowLint.Proofs.Report.Numbering
import WorkflowLint.Proofs.Page
import WorkflowLint.Proofs.Rules.Atomics
import WorkflowLint.Proofs.Report.Summary
import WorkflowLint.Proofs.Rules.Verdicts
import WorkflowLint.Proofs.Document.Faults
import WorkflowLint.Proofs.Report.Frame
import WorkflowLint.Proofs.Document.Edits
import WorkflowLint.Proofs.Document.Cleanup
import WorkflowLint.Proofs.Report.Sections
import WorkflowLint.Proofs.Rules.Settings
import WorkflowLint.Proofs.Markup.Lines
import WorkflowLint.Proofs.Report.Lines
import WorkflowLint.Proofs.Rules.Rearrangement
import WorkflowLint.Proofs.Json.Grammar
import WorkflowLint.Proofs.Json.Literals
import WorkflowLint.Proofs.Json.Scalars
import WorkflowLint.Proofs.Json.Brackets
import WorkflowLint.Proofs.Json.Reading
import WorkflowLint.Proofs.Json.Layout
import WorkflowLint.Proofs.Json.RoundTrip
import WorkflowLint.Proofs.Report.Json
import WorkflowLint.Proofs.Document.Rearrangement
import WorkflowLint.Proofs.Report.Order
import WorkflowLint.Proofs.Page.Answers
import WorkflowLint.Proofs.Log
import WorkflowLint.Proofs.Json.KeyOrder
import WorkflowLint.Proofs.Rules.KeyOrder
import WorkflowLint.Proofs.Document.KeyOrder
import WorkflowLint.Proofs.Text.Words
import WorkflowLint.Proofs.Text.Case
import WorkflowLint.Proofs.Naming.Convention
import WorkflowLint.Proofs.Naming.Suggestion
import WorkflowLint.Proofs.Naming.Ascii
import WorkflowLint.Proofs.Rules.Variables
import WorkflowLint.Proofs.Rules.Targets
import WorkflowLint.Proofs.Rules.Naming
import WorkflowLint.Proofs.Naming.Alphabetic
import WorkflowLint.Proofs.Report.Pushes
import WorkflowLint.Proofs.Rules.Strictness
import WorkflowLint.Proofs.Json.Record
import WorkflowLint.Proofs.Config.Language
import WorkflowLint.Proofs.Json.Ordered
import WorkflowLint.Proofs.Markup.Entries
import WorkflowLint.Proofs.Json.Property
import WorkflowLint.Proofs.Config.RoundTrip
import WorkflowLint.Proofs.Document.Extras
import WorkflowLint.Proofs.Markup.Decoding
import WorkflowLint.Proofs.Report.Message
import WorkflowLint.Proofs.CommandLine.Arguments
import WorkflowLint.Proofs.CommandLine.Delivery
import WorkflowLint.Proofs.CommandLine.Folder
import WorkflowLint.Proofs.Json.Revising
import WorkflowLint.Proofs.Rules.Flags
import WorkflowLint.Proofs.Document.Flags
import WorkflowLint.Proofs.Report.Text
import WorkflowLint.Proofs.Json.OneLine
import WorkflowLint.Proofs.Rules.Headlines
import WorkflowLint.Proofs.Document.Headlines
