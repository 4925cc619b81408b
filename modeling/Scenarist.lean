import Scenarist.Channel.Client
import Scenarist.Channel.Message
import Scenarist.Command.Arguments
import Scenarist.Command.Execution
import Scenarist.Command.Help
import Scenarist.Command.Host
import Scenarist.Command.Invocation
import Scenarist.Command.Parameter
import Scenarist.Command.Usage
import Scenarist.Decimal.Binary
import Scenarist.Decimal.Notation
import Scenarist.Decimal.Shortest
import Scenarist.Failure
import Scenarist.Files.Disk
import Scenarist.Files.Tree
import Scenarist.Files.Trouble
import Scenarist.Gemini.Client
import Scenarist.Json.Basic
import Scenarist.Json.Document
import Scenarist.Json.Printer
import Scenarist.Json.Record
import Scenarist.Json.Tagged
import Scenarist.Json.Token
import Scenarist.Layout.Rows
import Scenarist.Layout.Table
import Scenarist.Main
import Scenarist.Proofs.Channel.Conversation
import Scenarist.Proofs.Channel.Exchange
import Scenarist.Proofs.Channel.Handshake
import Scenarist.Proofs.Channel.Pairing
import Scenarist.Proofs.Channel.Reconnection
import Scenarist.Proofs.Channel.Redaction
import Scenarist.Proofs.Channel.Service
import Scenarist.Proofs.Channel.Skipping
import Scenarist.Proofs.Decimal.Rounding
import Scenarist.Proofs.Decimal.Shortest
import Scenarist.Proofs.Files.Course
import Scenarist.Proofs.Files.Place
import Scenarist.Proofs.Gemini.Secrecy
import Scenarist.Proofs.Json.Canonical
import Scenarist.Proofs.Json.Document
import Scenarist.Proofs.Json.Printer
import Scenarist.Proofs.Json.Reading
import Scenarist.Proofs.Json.Record
import Scenarist.Proofs.Json.Rest
import Scenarist.Proofs.Json.Soundness
import Scenarist.Proofs.Repair.Adoption
import Scenarist.Proofs.Repair.Independence
import Scenarist.Proofs.Repair.Limit
import Scenarist.Proofs.Repair.Loss
import Scenarist.Proofs.Repair.Preservation
import Scenarist.Proofs.Repair.Release
import Scenarist.Proofs.Repair.Run
import Scenarist.Proofs.Repair.Trace
import Scenarist.Proofs.Repair.Verdict
import Scenarist.Proofs.Reply.Balance
import Scenarist.Proofs.Reply.Depth
import Scenarist.Proofs.Reply.Entries
import Scenarist.Proofs.Reply.Extraction
import Scenarist.Proofs.Reply.Identifiers
import Scenarist.Proofs.Reply.RoundTrip
import Scenarist.Proofs.Run.Consistency
import Scenarist.Proofs.Run.Loading
import Scenarist.Proofs.Run.Passthrough
import Scenarist.Proofs.Run.Retention
import Scenarist.Proofs.Session.Answer
import Scenarist.Proofs.Session.Course
import Scenarist.Proofs.Session.Deadline
import Scenarist.Proofs.Session.Embedding
import Scenarist.Proofs.Session.Lifecycle
import Scenarist.Proofs.Session.Rendering
import Scenarist.Proofs.Session.Request
import Scenarist.Proofs.Session.Trace
import Scenarist.Proofs.Settings.RoundTrip
import Scenarist.Proofs.Spec.Assertion
import Scenarist.Proofs.Spec.Containment
import Scenarist.Proofs.Spec.Denotation
import Scenarist.Proofs.Spec.Expression
import Scenarist.Proofs.Spec.FileName
import Scenarist.Proofs.Spec.Script
import Scenarist.Proofs.Spec.Strategy
import Scenarist.Proofs.Spec.TextTarget
import Scenarist.Proofs.Toml.Document
import Scenarist.Proofs.Toml.Limit
import Scenarist.Proofs.Toml.Number
import Scenarist.Proofs.Toml.String
import Scenarist.Proofs.Toml.Table
import Scenarist.Proofs.Toml.Value
import Scenarist.Repair.Replay
import Scenarist.Repair.Report
import Scenarist.Reply.Extract
import Scenarist.Reply.Prompt
import Scenarist.Reply.Scenarios
import Scenarist.Run.Bundle
import Scenarist.Run.Pipeline
import Scenarist.Run.Request
import Scenarist.Run.Snapshot
import Scenarist.Scenario.Action
import Scenarist.Scenario.Basic
import Scenarist.Scenario.Outcome
import Scenarist.Scenario.Step
import Scenarist.Scenario.TagSet
import Scenarist.Session.Answer
import Scenarist.Session.Backend
import Scenarist.Session.Basic
import Scenarist.Session.Template
import Scenarist.Settings.Basic
import Scenarist.Settings.File
import Scenarist.Settings.Tools
import Scenarist.Spec.Literal
import Scenarist.Spec.Locator
import Scenarist.Spec.Options
import Scenarist.Spec.Source
import Scenarist.Spec.Statement
import Scenarist.Text.Blank
import Scenarist.Text.Bytes
import Scenarist.Text.Digit
import Scenarist.Text.Escaped
import Scenarist.Text.Extending
import Scenarist.Text.Ink
import Scenarist.Text.Path
import Scenarist.Text.Printable
import Scenarist.Text.Search
import Scenarist.Text.Uuid
import Scenarist.Text.Width
import Scenarist.Time.Instant
import Scenarist.Time.Reading
import Scenarist.Time.Span
import Scenarist.Toml.Basic
import Scenarist.Toml.Reader
import Scenarist.Toml.Scalar
import Scenarist.Toml.Tree
import Scenarist.Toml.Writer
import Scenarist.Url.Address
import Scenarist.Url.Host
import Scenarist.Url.Percent
import Scenarist.Url.Punycode
import Scenarist.Yaml.Plain
import Scenarist.Yaml.Printer
import Scenarist.Yaml.Scalar
