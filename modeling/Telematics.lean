import Telematics.Gateway.Step
import Telematics.Json.Printer
import Telematics.Settings
import Telematics.Stream.Hub
import Telematics.Proofs.Report.Action
import Telematics.Proofs.Report.Decoding
import Telematics.Proofs.Store.Devices
import Telematics.Proofs.Gateway.Broadcast
import Telematics.Proofs.Gateway.Effect
import Telematics.Proofs.Store.Consistency
import Telematics.Proofs.Gateway.Ingest
import Telematics.Proofs.Gateway.Serve
import Telematics.Proofs.Gateway.Operation
import Telematics.Proofs.Gateway.Run
import Telematics.Proofs.Gateway.Coherence
import Telematics.Proofs.Store.Commands
import Telematics.Proofs.Gateway.Delivery
import Telematics.Proofs.Gateway.Refusal
import Telematics.Proofs.Gateway.Announcement
import Telematics.Proofs.Report.Parameters
import Telematics.Proofs.Report.Acceptance
import Telematics.Proofs.Gateway.Storing
import Telematics.Proofs.Gateway.Attribution
import Telematics.Proofs.Store.Fitting
import Telematics.Proofs.Report.Breakdown
import Telematics.Proofs.Report.Typing
import Telematics.Proofs.Store.Numbers
import Telematics.Proofs.Gateway.Devices
import Telematics.Proofs.Gateway.Answer
import Telematics.Proofs.Store.Newest
import Telematics.Proofs.Gateway.Coordinates
import Telematics.Proofs.Gateway.Fallback
import Telematics.Proofs.Http.Form
import Telematics.Proofs.Report.Rejection
import Telematics.Proofs.Calendar.Moment
import Telematics.Proofs.Report.Reading
import Telematics.Proofs.Gateway.History
import Telematics.Proofs.Report.Agreement
import Telematics.Proofs.Gateway.Alike
import Telematics.Proofs.Gateway.Isolation
import Telematics.Proofs.Report.Depth
import Telematics.Proofs.Report.Members
import Telematics.Proofs.Report.Schema
import Telematics.Proofs.Report.Finite
import Telematics.Proofs.Report.Formats
import Telematics.Proofs.Gateway.Tuning
import Telematics.Proofs.Report.Discipline
import Telematics.Proofs.Stream.Platform
import Telematics.Proofs.Gateway.Frames
import Telematics.Proofs.Gateway.Anonymity
import Telematics.Proofs.Report.Times
import Telematics.Proofs.Gateway.Standing
import Telematics.Proofs.Http.Rearrangement
import Telematics.Proofs.Report.Rearrangement
import Telematics.Proofs.Report.Variation
import Telematics.Proofs.Store.Identifiers
import Telematics.Proofs.Gateway.Sessions
import Telematics.Proofs.Gateway.Tokens
import Telematics.Proofs.Number.Scripts
import Telematics.Proofs.Stream.Subscription
import Telematics.Proofs.Stream.Narrowing
import Telematics.Proofs.Timestamp.RoundTrip
import Telematics.Proofs.Report.Sources
import Telematics.Proofs.Report.Radio
import Telematics.Proofs.Api.Route
import Telematics.Proofs.Gateway.Commanding
