import BatteryTelemetry.Broker.Message
import BatteryTelemetry.Broker.Settings
import BatteryTelemetry.Bus.Frame
import BatteryTelemetry.Bus.Message
import BatteryTelemetry.Bus.Pid
import BatteryTelemetry.Bus.Reading
import BatteryTelemetry.Bus.Status
import BatteryTelemetry.Capture.Basic
import BatteryTelemetry.Capture.Line
import BatteryTelemetry.Charge.State
import BatteryTelemetry.Charge.Transition
import BatteryTelemetry.Charge.Window
import BatteryTelemetry.Command.Arguments
import BatteryTelemetry.Command.Help
import BatteryTelemetry.Command.Request
import BatteryTelemetry.Command.Run
import BatteryTelemetry.Decoder.Basic
import BatteryTelemetry.Decoder.Effect
import BatteryTelemetry.Decoder.Log
import BatteryTelemetry.Decoder.Summary
import BatteryTelemetry.Document.Console
import BatteryTelemetry.Document.Json
import BatteryTelemetry.Document.Leaf
import BatteryTelemetry.Document.Snapshot
import BatteryTelemetry.Duration
import BatteryTelemetry.Files
import BatteryTelemetry.Hex
import BatteryTelemetry.Main
import BatteryTelemetry.Number.BinaryFormat
import BatteryTelemetry.Number.Numeral
import BatteryTelemetry.Number.Rounding
import BatteryTelemetry.Number.Shortest
import BatteryTelemetry.Number.Single
import BatteryTelemetry.Number.Style
import BatteryTelemetry.Parameters
import BatteryTelemetry.Proofs.Block.History
import BatteryTelemetry.Proofs.Broker.Formats
import BatteryTelemetry.Proofs.Bus.Answer
import BatteryTelemetry.Proofs.Bus.Range
import BatteryTelemetry.Proofs.Bus.Reading
import BatteryTelemetry.Proofs.Capture.Field
import BatteryTelemetry.Proofs.Capture.Grammar
import BatteryTelemetry.Proofs.Capture.Layout
import BatteryTelemetry.Proofs.Capture.Lines
import BatteryTelemetry.Proofs.Capture.Payload
import BatteryTelemetry.Proofs.Capture.RoundTrip
import BatteryTelemetry.Proofs.Capture.Slices
import BatteryTelemetry.Proofs.Charge.Coherence
import BatteryTelemetry.Proofs.Charge.History
import BatteryTelemetry.Proofs.Charge.Parameters
import BatteryTelemetry.Proofs.Charge.Percentage
import BatteryTelemetry.Proofs.Charge.Report
import BatteryTelemetry.Proofs.Charge.Scale
import BatteryTelemetry.Proofs.Charge.Threshold
import BatteryTelemetry.Proofs.Charge.Transition
import BatteryTelemetry.Proofs.Command.Frame
import BatteryTelemetry.Proofs.Command.Replay
import BatteryTelemetry.Proofs.Command.Stages
import BatteryTelemetry.Proofs.Decoder.Commute
import BatteryTelemetry.Proofs.Decoder.Dispatch
import BatteryTelemetry.Proofs.Decoder.Footprint
import BatteryTelemetry.Proofs.Decoder.KeptByte
import BatteryTelemetry.Proofs.Decoder.Range
import BatteryTelemetry.Proofs.Decoder.Reachable
import BatteryTelemetry.Proofs.Decoder.Receive
import BatteryTelemetry.Proofs.Decoder.Redelivery
import BatteryTelemetry.Proofs.Decoder.Rejection
import BatteryTelemetry.Proofs.Decoder.Trace
import BatteryTelemetry.Proofs.Document.Console
import BatteryTelemetry.Proofs.Document.Fields
import BatteryTelemetry.Proofs.Document.Layout
import BatteryTelemetry.Proofs.Document.Line
import BatteryTelemetry.Proofs.Document.Listing
import BatteryTelemetry.Proofs.Document.Printed
import BatteryTelemetry.Proofs.Document.Reader
import BatteryTelemetry.Proofs.Document.Replay
import BatteryTelemetry.Proofs.Document.Token
import BatteryTelemetry.Proofs.History
import BatteryTelemetry.Proofs.Number.Decimal
import BatteryTelemetry.Proofs.Number.DecimalText
import BatteryTelemetry.Proofs.Number.Digits
import BatteryTelemetry.Proofs.Number.Dyadic
import BatteryTelemetry.Proofs.Number.Exact
import BatteryTelemetry.Proofs.Number.Nearest
import BatteryTelemetry.Proofs.Number.Numeral
import BatteryTelemetry.Proofs.Number.Order
import BatteryTelemetry.Proofs.Number.Rounded
import BatteryTelemetry.Proofs.Number.Sign
import BatteryTelemetry.Proofs.Number.Text
import BatteryTelemetry.Proofs.Pack.Extremes
import BatteryTelemetry.Proofs.Pack.Recomputed
import BatteryTelemetry.Proofs.Reading.History
import BatteryTelemetry.Proofs.Reading.Power
import BatteryTelemetry.Proofs.Store.Extreme
import BatteryTelemetry.Proofs.Store.Range
import BatteryTelemetry.Proofs.Store.Writes
import BatteryTelemetry.Proofs.Text.Encoding
import BatteryTelemetry.Proofs.Text.Words
import BatteryTelemetry.Store.Basic
import BatteryTelemetry.Store.CellRow
import BatteryTelemetry.Store.Metric
import BatteryTelemetry.Store.Value
import BatteryTelemetry.Text.Blank
import BatteryTelemetry.Text.CharacterSet
import BatteryTelemetry.Text.Combining
import BatteryTelemetry.Text.Quoted
import BatteryTelemetry.Text.Unprintable
import BatteryTelemetry.Vehicle
import BatteryTelemetry.Yaml.Character
import BatteryTelemetry.Yaml.Fold
import BatteryTelemetry.Yaml.Node
import BatteryTelemetry.Yaml.Record
import BatteryTelemetry.Yaml.Scalar
import BatteryTelemetry.Yaml.Tag
import BatteryTelemetry.Yaml.Token
