import SinkReporter.Main
import SinkReporter.Plugin
import SinkReporter.Proofs.Base64
import SinkReporter.Proofs.Json.Passing
import SinkReporter.Proofs.Client.Delivery
import SinkReporter.Proofs.Client.Release
import SinkReporter.Proofs.Json.Agreement
import SinkReporter.Proofs.Json.Written
import SinkReporter.Proofs.Json.Fields
import SinkReporter.Proofs.Record.Reading
import SinkReporter.Proofs.Record.WellFormed
import SinkReporter.Proofs.Record.Writing
import SinkReporter.Proofs.Record.RoundTrip
import SinkReporter.Proofs.Client.Report
import SinkReporter.Proofs.Http.Address
import SinkReporter.Proofs.Http.Building
import SinkReporter.Proofs.Http.Session
import SinkReporter.Proofs.Command.Stages
import SinkReporter.Proofs.Command.Arguments
import SinkReporter.Proofs.Command.Agreement
import SinkReporter.Proofs.Json.Lookup
import SinkReporter.Proofs.Context.Reading
import SinkReporter.Proofs.Context.Resolution
import SinkReporter.Proofs.Command.Honesty
import SinkReporter.Proofs.Command.Prediction
import SinkReporter.Proofs.Http.Twins
import SinkReporter.Proofs.Client.Confidential
import SinkReporter.Proofs.Command.Confidential
import SinkReporter.Proofs.Base64.Standard
import SinkReporter.Proofs.Json.Named
import SinkReporter.Proofs.Record.Grammar
import SinkReporter.Proofs.Settings.Natural
import SinkReporter.Proofs.Settings.Precedence
import SinkReporter.Proofs.Client.Opening
import SinkReporter.Proofs.Record.Composition
import SinkReporter.Proofs.Record.TagList
import SinkReporter.Proofs.Command.Tags
import SinkReporter.Proofs.Json.Parts
import SinkReporter.Proofs.Json.Words
import SinkReporter.Proofs.Json.Layout
import SinkReporter.Proofs.Json.Variation
import SinkReporter.Proofs.Json.Tolerance
import SinkReporter.Proofs.Context.Tolerance
import SinkReporter.Proofs.Json.Ending
import SinkReporter.Proofs.Json.Cutting
import SinkReporter.Proofs.Record.Truncation
import SinkReporter.Proofs.Record.TagPairs
import SinkReporter.Proofs.Record.TagChanges
import SinkReporter.Proofs.Text.Digits
import SinkReporter.Proofs.Settings.Timeout
import SinkReporter.Proofs.Json.Natural
import SinkReporter.Proofs.Json.Strict
import SinkReporter.Proofs.Settings.RoundTrip
import SinkReporter.Proofs.Text.Quoted
import SinkReporter.Proofs.Plugin
