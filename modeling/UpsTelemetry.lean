import UpsTelemetry.Bytes
import UpsTelemetry.Text.Hex
import UpsTelemetry.Text.Padded
import UpsTelemetry.Text.Decimal
import UpsTelemetry.Frame.Checksum
import UpsTelemetry.Frame.Basic
import UpsTelemetry.Frame.Error
import UpsTelemetry.Frame.Address
import UpsTelemetry.Frame.Command
import UpsTelemetry.Frame.Request
import UpsTelemetry.Frame.ReturnCode
import UpsTelemetry.Frame.Reply
import UpsTelemetry.Telemetry.PollState
import UpsTelemetry.Telemetry.Power
import UpsTelemetry.Telemetry.Metric
import UpsTelemetry.Telemetry.Scaling
import UpsTelemetry.Telemetry.OnOff
import UpsTelemetry.Telemetry.Analog
import UpsTelemetry.Telemetry.Parameters
import UpsTelemetry.Telemetry.Warnings
import UpsTelemetry.Telemetry.Report
import UpsTelemetry.Sink.Basic
import UpsTelemetry.Sink.Recorder
import UpsTelemetry.Link.Fault
import UpsTelemetry.Link.Buffer
import UpsTelemetry.Link.Basic
import UpsTelemetry.Link.Uart
import UpsTelemetry.Link.Serial
import UpsTelemetry.Link.Traced
import UpsTelemetry.Driver.Config
import UpsTelemetry.Driver.Error
import UpsTelemetry.Driver.InstantCommand
import UpsTelemetry.Driver.Retry
import UpsTelemetry.Driver.Exchange
import UpsTelemetry.Driver.Basic
import UpsTelemetry.Driver.Session
import UpsTelemetry.Bench.ScriptedUart
import UpsTelemetry.Bench.ScriptedLink
import UpsTelemetry.Bench.SimulatedUps
import UpsTelemetry.Proofs.Text.Hex
import UpsTelemetry.Proofs.Text.Number
import UpsTelemetry.Proofs.Text.Padded
import UpsTelemetry.Proofs.Text.Decimal
import UpsTelemetry.Proofs.Text.Single
import UpsTelemetry.Proofs.Frame.Checksum
import UpsTelemetry.Proofs.Frame.Integrity
import UpsTelemetry.Proofs.Frame.Damage
import UpsTelemetry.Proofs.Frame.Detection
import UpsTelemetry.Proofs.Frame.Guarded
import UpsTelemetry.Proofs.Frame.Request
import UpsTelemetry.Proofs.Frame.ReturnCode
import UpsTelemetry.Proofs.Frame.Markers
import UpsTelemetry.Proofs.Sink.Recorder
import UpsTelemetry.Proofs.Telemetry.Scaling
import UpsTelemetry.Proofs.Telemetry.Report
import UpsTelemetry.Proofs.Sink.Transactions
import UpsTelemetry.Proofs.Telemetry.Fields
import UpsTelemetry.Proofs.Telemetry.Warnings
import UpsTelemetry.Proofs.Telemetry.Guarded
import UpsTelemetry.Proofs.Frame.Accessors
import UpsTelemetry.Proofs.Telemetry.Advance
import UpsTelemetry.Proofs.Telemetry.Status
import UpsTelemetry.Proofs.Link.Stream
import UpsTelemetry.Proofs.Link.Filling
import UpsTelemetry.Proofs.Link.Transmit
import UpsTelemetry.Proofs.Bench.ScriptedUart
import UpsTelemetry.Proofs.Link.Receive
import UpsTelemetry.Proofs.Bench.SimulatedUps
import UpsTelemetry.Proofs.Bench.History
import UpsTelemetry.Proofs.Bench.Placement
import UpsTelemetry.Proofs.Driver.Exchange
import UpsTelemetry.Proofs.Bench.Reply
import UpsTelemetry.Proofs.Driver.Retry
import UpsTelemetry.Proofs.Driver.Attempts
import UpsTelemetry.Proofs.Driver.Session
import UpsTelemetry.Proofs.Driver.Requests
import UpsTelemetry.Proofs.Driver.Agreement
import UpsTelemetry.Proofs.Driver.Traced
import UpsTelemetry.Proofs.Driver.PollStep
import UpsTelemetry.Proofs.Driver.Guarded
import UpsTelemetry.Proofs.Driver.Bounds
import UpsTelemetry.Proofs.Driver.PollCycle
import UpsTelemetry.Proofs.Driver.Decoding
import UpsTelemetry.Proofs.Driver.Status
import UpsTelemetry.Proofs.Driver.DamagedReply
import UpsTelemetry.Proofs.Driver.ShortInfo
import UpsTelemetry.Proofs.Driver.Commands
import UpsTelemetry.Proofs.Driver.Identification
import UpsTelemetry.Proofs.Driver.StaleInput
import UpsTelemetry.Proofs.Driver.RoundTrip
import UpsTelemetry.Proofs.Driver.Rejection
import UpsTelemetry.Proofs.Driver.Conversation
import UpsTelemetry.Proofs.Driver.Strictness
import UpsTelemetry.Proofs.Driver.SingleFrame
import UpsTelemetry.Proofs.Driver.Transactions
