import DesiredState.CommandLine.Arguments
import DesiredState.CommandLine.Consulted
import DesiredState.CommandLine.Execution
import DesiredState.CommandLine.Invocation
import DesiredState.CommandLine.Run
import DesiredState.Comparison.Containment
import DesiredState.Comparison.Verdict
import DesiredState.Data.Value
import DesiredState.Entries
import DesiredState.Exchange.Client
import DesiredState.Exchange.StatusCode
import DesiredState.Exchange.Wire
import DesiredState.Failure
import DesiredState.Files.Content
import DesiredState.Files.Disk
import DesiredState.Files.Fault
import DesiredState.Files.Path
import DesiredState.Json.Decode
import DesiredState.Json.Encode
import DesiredState.Json.Fault
import DesiredState.Json.Token
import DesiredState.Json.Value
import DesiredState.Lifecycle.Observation
import DesiredState.Lifecycle.Recording
import DesiredState.Lifecycle.Verbs
import DesiredState.Log.DateFormat
import DesiredState.Log.Line
import DesiredState.Log.Moment
import DesiredState.Log.Pattern
import DesiredState.Log.Record
import DesiredState.Log.Setup
import DesiredState.Main
import DesiredState.Number.Binary64
import DesiredState.Number.Numeral
import DesiredState.Number.Places
import DesiredState.Number.Shortest
import DesiredState.Proofs.Comparison.Assignment
import DesiredState.Proofs.Comparison.Unordered
import DesiredState.Proofs.Comparison.Verdict
import DesiredState.Proofs.Exchange.Traffic
import DesiredState.Proofs.Files.Disk
import DesiredState.Proofs.Json.Decoded
import DesiredState.Proofs.Json.Grammar
import DesiredState.Proofs.Json.Reading
import DesiredState.Proofs.Json.Tokens
import DesiredState.Proofs.Json.Writing
import DesiredState.Proofs.Lifecycle.Decision
import DesiredState.Proofs.Lifecycle.Failures
import DesiredState.Proofs.Lifecycle.Pass
import DesiredState.Proofs.Lifecycle.Requests
import DesiredState.Proofs.Lifecycle.Run
import DesiredState.Proofs.Lifecycle.Saves
import DesiredState.Proofs.Resource.Document
import DesiredState.Proofs.Resource.Resolution
import DesiredState.Proofs.Resource.Tidy
import DesiredState.Proofs.Storage.FileStore
import DesiredState.Proofs.Template.Faults
import DesiredState.Resource.Basic
import DesiredState.Resource.Check
import DesiredState.Resource.Context
import DesiredState.Resource.Declaration
import DesiredState.Resource.Document
import DesiredState.Resource.Resolution
import DesiredState.Schema.Check
import DesiredState.Schema.Problem
import DesiredState.Settings.Basic
import DesiredState.Settings.Environment
import DesiredState.Settings.File
import DesiredState.Settings.Hierarchy
import DesiredState.Settings.Load
import DesiredState.Storage.FileStore
import DesiredState.Template.Path
import DesiredState.Template.Piece
import DesiredState.Template.Render
import DesiredState.Text.Basic
import DesiredState.Text.Blank
import DesiredState.Text.Case
import DesiredState.Text.CaseTable
import DesiredState.Text.Digit
import DesiredState.Text.Lines
import DesiredState.Text.Printable
import DesiredState.Text.Quoted
import DesiredState.Text.Utf8
import DesiredState.Yaml.Cursor
import DesiredState.Yaml.Date
import DesiredState.Yaml.Meaning
import DesiredState.Yaml.Node
import DesiredState.Yaml.Number
import DesiredState.Yaml.Token
import DesiredState.Yaml.Written
import DesiredState.Proofs.Comparison.Reflexive
import DesiredState.Proofs.Resource.Independence
import DesiredState.Proofs.Lifecycle.Convergence
import DesiredState.Proofs.Lifecycle.Accounting
import DesiredState.Proofs.Lifecycle.Recovery
import DesiredState.Proofs.Lifecycle.Deletion
import DesiredState.Proofs.Comparison.Ordered
import DesiredState.Proofs.Json.Acceptance
import DesiredState.Proofs.CommandLine.Session
import DesiredState.Proofs.CommandLine.Endings
import DesiredState.Proofs.Lifecycle.Fidelity
import DesiredState.Proofs.Lifecycle.Memory
import DesiredState.Proofs.Lifecycle.Cancellation
import DesiredState.Proofs.Json.RoundTrip
import DesiredState.Proofs.Resource.PayloadBody
import DesiredState.Proofs.Template.Filling
import DesiredState.Proofs.Resource.Filled
import DesiredState.Proofs.Lifecycle.Written
import DesiredState.Proofs.Resource.JsonBody
import DesiredState.Proofs.Comparison.Backing
import DesiredState.Proofs.Comparison.Modes
import DesiredState.Proofs.Comparison.Meaning
import DesiredState.Proofs.Resource.Mappings
import DesiredState.Proofs.Number.Special
import DesiredState.Proofs.Settings.Acceptance
import DesiredState.Proofs.Settings.Precedence
import DesiredState.Proofs.Settings.Configured
import DesiredState.Proofs.Log.Line
import DesiredState.Proofs.Settings.Merging
import DesiredState.Proofs.Settings.References
import DesiredState.Proofs.Storage.Atomicity
import DesiredState.Proofs.Template.Paths
