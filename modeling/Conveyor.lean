import Conveyor.Calendar.Date
import Conveyor.Calendar.Moment
import Conveyor.CommandLine.Command
import Conveyor.CommandLine.Options
import Conveyor.CommandLine.Outcome
import Conveyor.Config
import Conveyor.Console.Markup
import Conveyor.Console.Pictures
import Conveyor.Console.Table
import Conveyor.Console.Width
import Conveyor.Console.Wrap
import Conveyor.Counts
import Conveyor.Datum.Basic
import Conveyor.Datum.Display
import Conveyor.Decimal.Places
import Conveyor.Decimal.Shortest
import Conveyor.Definition.Check
import Conveyor.Definition.Decode
import Conveyor.Definition.Encode
import Conveyor.Definition.Problem
import Conveyor.Definition.Tree
import Conveyor.Engine.Call
import Conveyor.Engine.Engine
import Conveyor.Engine.Execution
import Conveyor.Engine.Pool
import Conveyor.Engine.Rehearsal
import Conveyor.Engine.Run
import Conveyor.Engine.Worker
import Conveyor.Fault
import Conveyor.FileTree
import Conveyor.Json.Reader
import Conveyor.Json.Writer
import Conveyor.Loader
import Conveyor.Local.Arguments
import Conveyor.Local.Performance
import Conveyor.Local.Services
import Conveyor.Log.Coloured
import Conveyor.Log.Config
import Conveyor.Log.Line
import Conveyor.Log.Redact
import Conveyor.Main
import Conveyor.Matrix
import Conveyor.Metrics.Collector
import Conveyor.Metrics.Exposition
import Conveyor.Metrics.Registry
import Conveyor.Proofs.CommandLine.Agreement
import Conveyor.Proofs.Config
import Conveyor.Proofs.Console.Balance
import Conveyor.Proofs.Definition.Checking
import Conveyor.Proofs.Definition.RoundTrip
import Conveyor.Proofs.Engine.Conserved
import Conveyor.Proofs.Engine.Dispatch
import Conveyor.Proofs.Engine.Event
import Conveyor.Proofs.Engine.Isolation
import Conveyor.Proofs.Engine.Kept
import Conveyor.Proofs.Engine.Refused
import Conveyor.Proofs.Engine.Register
import Conveyor.Proofs.Engine.Slots
import Conveyor.Proofs.Execution.Change
import Conveyor.Proofs.Execution.FailFast
import Conveyor.Proofs.Execution.Orderly
import Conveyor.Proofs.Execution.Related
import Conveyor.Proofs.Execution.Sound
import Conveyor.Proofs.Execution.Unhindered
import Conveyor.Proofs.Execution.Waiting
import Conveyor.Proofs.Failing
import Conveyor.Proofs.Files
import Conveyor.Proofs.Loader.Cache
import Conveyor.Proofs.Loader.Failure
import Conveyor.Proofs.Loader.Request
import Conveyor.Proofs.Log.Redaction
import Conveyor.Proofs.Matrix
import Conveyor.Proofs.Matrix.Expansion
import Conveyor.Proofs.Metrics.Cells
import Conveyor.Proofs.Metrics.Counters
import Conveyor.Proofs.Metrics.Exact
import Conveyor.Proofs.Metrics.Gauge
import Conveyor.Proofs.Metrics.Level
import Conveyor.Proofs.Plan
import Conveyor.Proofs.Report.Becomes
import Conveyor.Proofs.Run.AtWork
import Conveyor.Proofs.Run.Booking
import Conveyor.Proofs.Run.Cancel
import Conveyor.Proofs.Run.Closed
import Conveyor.Proofs.Run.Concerns
import Conveyor.Proofs.Run.Conduct
import Conveyor.Proofs.Run.Confluence
import Conveyor.Proofs.Run.Counted
import Conveyor.Proofs.Run.Event
import Conveyor.Proofs.Run.FailurePolicy
import Conveyor.Proofs.Run.Final
import Conveyor.Proofs.Run.FirstCome
import Conveyor.Proofs.Run.Step
import Conveyor.Proofs.Run.Kept
import Conveyor.Proofs.Run.Queue
import Conveyor.Proofs.Run.Rest
import Conveyor.Proofs.Run.Returned
import Conveyor.Proofs.Run.Services
import Conveyor.Proofs.Run.Slots
import Conveyor.Proofs.Run.Sound
import Conveyor.Proofs.Run.Ticket
import Conveyor.Proofs.Run.Totals
import Conveyor.Proofs.Run.Truthful
import Conveyor.Proofs.Run.Unhindered
import Conveyor.Proofs.Selection
import Conveyor.Proofs.Template.Composition
import Conveyor.Proofs.Template.Placeholder
import Conveyor.Proofs.Template.Unresolved
import Conveyor.Proofs.Worker.Act
import Conveyor.Proofs.Worker.Alone
import Conveyor.Proofs.Worker.Conduct
import Conveyor.Proofs.Worker.Counted
import Conveyor.Proofs.Worker.Effort
import Conveyor.Proofs.Worker.Holding
import Conveyor.Proofs.Worker.Leads
import Conveyor.Proofs.Worker.Quiet
import Conveyor.Proofs.Worker.Started
import Conveyor.Proofs.Worker.Truthful
import Conveyor.Proofs.Worker.Turns
import Conveyor.Proofs.Yaml.Grammar
import Conveyor.Proofs.Yaml.Lexing
import Conveyor.Proofs.Yaml.Merging
import Conveyor.Proofs.Yaml.Spoiled
import Conveyor.Report.Encode
import Conveyor.Report.Instance
import Conveyor.Report.Run
import Conveyor.Report.Stage
import Conveyor.Report.Status
import Conveyor.Resolution
import Conveyor.Shell.Arithmetic
import Conveyor.Shell.Builtin
import Conveyor.Shell.Bytes
import Conveyor.Shell.Condition
import Conveyor.Shell.Edit
import Conveyor.Shell.Expand
import Conveyor.Shell.Field
import Conveyor.Shell.Filter
import Conveyor.Shell.Format
import Conveyor.Shell.Grep
import Conveyor.Shell.Launch
import Conveyor.Shell.Options
import Conveyor.Shell.Pattern
import Conveyor.Shell.Permissions
import Conveyor.Shell.Regex
import Conveyor.Shell.Run
import Conveyor.Shell.Script
import Conveyor.Shell.Session
import Conveyor.Shell.Signals
import Conveyor.Shell.Source
import Conveyor.Shell.Syntax
import Conveyor.Shell.Utility
import Conveyor.Structure
import Conveyor.Template
import Conveyor.Text.Blank
import Conveyor.Text.Case
import Conveyor.Text.Cased
import Conveyor.Text.Number
import Conveyor.Text.Printable
import Conveyor.Text.Quoted
import Conveyor.Text.Utf8
import Conveyor.Text.Whole
import Conveyor.Trigger.Cron
import Conveyor.Trigger.Glob
import Conveyor.Trigger.Matcher
import Conveyor.Yaml.Cursor
import Conveyor.Yaml.Defect
import Conveyor.Yaml.Document
import Conveyor.Yaml.Holding
import Conveyor.Yaml.Kind
import Conveyor.Yaml.Lexer
import Conveyor.Yaml.Node
import Conveyor.Yaml.Property
import Conveyor.Yaml.Scalar
import Conveyor.Yaml.ScalarText
import Conveyor.Proofs.Matrix.Collision
import Conveyor.Proofs.Matrix.Numbering
import Conveyor.Proofs.Text.Whole
import Conveyor.Proofs.Text.Words
import Conveyor.Proofs.Trigger.Cron
import Conveyor.Proofs.Calendar
import Conveyor.Proofs.Report.Lifecycle
import Conveyor.Proofs.Report.Refusal
import Conveyor.Proofs.Resolution
import Conveyor.Proofs.Structure
import Conveyor.Proofs.Trigger.Schedule
import Conveyor.Proofs.Run.Permitted
import Conveyor.Proofs.Engine.Permitted
import Conveyor.Proofs.Engine.StopErrors
import Conveyor.Proofs.Trigger.Glob
import Conveyor.Proofs.Trigger.Ref
import Conveyor.Proofs.Loader.Forms
import Conveyor.Proofs.Config.Merging
import Conveyor.Proofs.FirstPlace
import Conveyor.Proofs.Report.Artifacts
import Conveyor.Proofs.Config.Assignment
import Conveyor.Proofs.Local.Environment
import Conveyor.Proofs.Log.Truncation
