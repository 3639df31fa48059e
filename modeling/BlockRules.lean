import BlockRules.Calendar.Basic
import BlockRules.Calendar.Reading
import BlockRules.Calendar.Written
import BlockRules.Comparison.Basic
import BlockRules.Comparison.Comparator
import BlockRules.Document.Basic
import BlockRules.Document.Obstacle
import BlockRules.Document.Reading
import BlockRules.Document.Saving
import BlockRules.Document.Writing
import BlockRules.Evaluation.Branch
import BlockRules.Evaluation.TestRun
import BlockRules.Evaluation.Trace
import BlockRules.Evaluation.Turn
import BlockRules.Evaluation.Walk
import BlockRules.Json.Reading
import BlockRules.Json.Token
import BlockRules.Json.Writing
import BlockRules.Keyed
import BlockRules.Library.Basic
import BlockRules.Library.Bundled
import BlockRules.Library.Export
import BlockRules.Library.Files
import BlockRules.Library.Path
import BlockRules.Metrics.Quantity
import BlockRules.Metrics.Snapshot
import BlockRules.Monitor
import BlockRules.Number.Arithmetic
import BlockRules.Number.Binary64
import BlockRules.Number.Integer
import BlockRules.Number.Literal
import BlockRules.Number.Power
import BlockRules.Number.Rounding
import BlockRules.Number.Shortest
import BlockRules.Rule.Block
import BlockRules.Rule.Connective
import BlockRules.Rule.Cycle
import BlockRules.Rule.Graph
import BlockRules.Rule.Unvisited
import BlockRules.Rule.Validation
import BlockRules.Schema.Checked
import BlockRules.Schema.Field
import BlockRules.Service.Answer
import BlockRules.Service.Basic
import BlockRules.Service.Body
import BlockRules.Service.Exchange
import BlockRules.Service.Origin
import BlockRules.Service.Page
import BlockRules.Settings.Basic
import BlockRules.Settings.Dotenv
import BlockRules.Settings.LogLevel
import BlockRules.Text.Blank
import BlockRules.Text.CaseRun
import BlockRules.Text.Digit
import BlockRules.Text.Escaped
import BlockRules.Text.Hex
import BlockRules.Text.Lines
import BlockRules.Text.LowerCase
import BlockRules.Text.Printable
import BlockRules.Text.Quoted
import BlockRules.Text.UpperCase
import BlockRules.Text.Utf16
import BlockRules.Text.Utf8
import BlockRules.Text.Utf8Lossy
import BlockRules.Value.Basic
import BlockRules.Value.Written
import BlockRules.Wording.Phrase
import BlockRules.Wording.Preview
import BlockRules.Wording.Pseudocode
import BlockRules.Wording.Summary
import BlockRules.Yaml.Base64
import BlockRules.Yaml.Content
import BlockRules.Yaml.Cursor
import BlockRules.Yaml.Error
import BlockRules.Yaml.Merge
import BlockRules.Yaml.Node
import BlockRules.Yaml.Part
import BlockRules.Yaml.Property
import BlockRules.Yaml.Scalar
import BlockRules.Yaml.Style
import BlockRules.Yaml.Tag
import BlockRules.Yaml.Text
import BlockRules.Yaml.Timestamp
import BlockRules.Yaml.Token
import BlockRules.Yaml.Writing
import BlockRules.Proofs.Gathering
import BlockRules.Proofs.Walk.Stack
import BlockRules.Proofs.Walk.Visit
import BlockRules.Proofs.Walk.Route
import BlockRules.Proofs.Walk.Firing
import BlockRules.Proofs.Walk.Reach
import BlockRules.Proofs.Cycle.Step
import BlockRules.Proofs.Cycle.Invariant
import BlockRules.Proofs.Cycle.Found
import BlockRules.Proofs.Walk.Alike
import BlockRules.Proofs.Inputs.Listed
import BlockRules.Proofs.Inputs.Monotone
import BlockRules.Proofs.Number.Range
import BlockRules.Proofs.Comparison.Failure
import BlockRules.Proofs.Walk.Failure
import BlockRules.Proofs.Walk.Dangling
import BlockRules.Proofs.Walk.Reorder
import BlockRules.Proofs.Walk.Ancestry
import BlockRules.Proofs.Walk.Repeated
import BlockRules.Proofs.Walk.Beside
import BlockRules.Proofs.Number.Digits
import BlockRules.Proofs.Calendar.RoundTrip
import BlockRules.Proofs.Value.JsonData
import BlockRules.Proofs.Schema.Field
import BlockRules.Proofs.Document.Parts
import BlockRules.Proofs.Document.RoundTrip
import BlockRules.Proofs.Document.JsonData
import BlockRules.Proofs.Document.Saves
import BlockRules.Proofs.Library.Filing
import BlockRules.Proofs.Library.Loading
import BlockRules.Proofs.Library.Calls
import BlockRules.Proofs.Text.Direct
import BlockRules.Proofs.Json.Direct
import BlockRules.Proofs.Json.Reading
import BlockRules.Proofs.Library.Writing
import BlockRules.Proofs.Yaml.Direct
import BlockRules.Proofs.Library.Export
import BlockRules.Proofs.Cycle.Skipped
import BlockRules.Proofs.Rule.Located
import BlockRules.Proofs.Walk.Loose
import BlockRules.Proofs.Monitor.Step
import BlockRules.Proofs.Monitor.Record
import BlockRules.Proofs.Monitor.Running
import BlockRules.Proofs.Monitor.Alone
import BlockRules.Proofs.Monitor.Counted
import BlockRules.Proofs.Walk.Loop
import BlockRules.Proofs.Service.Rules
import BlockRules.Proofs.Service.Body
import BlockRules.Proofs.Service.Evaluating
import BlockRules.Proofs.Service.Listing
import BlockRules.Proofs.Comparison.Kinds
import BlockRules.Proofs.Evaluation.Display
import BlockRules.Proofs.Library.Directory
import BlockRules.Proofs.Wording.JoinWord
import BlockRules.Proofs.Value.Same
import BlockRules.Proofs.Comparison.Exchange
import BlockRules.Proofs.Number.Decimal
import BlockRules.Proofs.Number.Grammar
import BlockRules.Proofs.Comparison.Reading
import BlockRules.Proofs.Comparison.Ordering
import BlockRules.Proofs.Number.Exact
import BlockRules.Proofs.Comparison.IntegerText
import BlockRules.Proofs.Wording.Lines
import BlockRules.Proofs.Wording.Reports
import BlockRules.Proofs.Comparison.Searching
import BlockRules.Proofs.Rule.Renamed
import BlockRules.Proofs.Walk.Renamed
import BlockRules.Proofs.Number.Nearest
import BlockRules.Proofs.Number.Places
import BlockRules.Proofs.Comparison.Decimals
import BlockRules.Proofs.Metrics.Parts
import BlockRules.Proofs.Metrics.Rounded
