import FrameFeed.Address.Endpoint
import FrameFeed.Address.Error
import FrameFeed.Address.Listeners
import FrameFeed.Address.Place
import FrameFeed.Address.Settings
import FrameFeed.Address.SocketFile
import FrameFeed.Bytes
import FrameFeed.Command.Duration
import FrameFeed.Command.Failure
import FrameFeed.Command.Grab
import FrameFeed.Command.Invocation
import FrameFeed.Command.Line
import FrameFeed.Command.Output
import FrameFeed.Command.Run
import FrameFeed.Command.Serve
import FrameFeed.Command.Table
import FrameFeed.Decimal.Binary64
import FrameFeed.Decimal.Digits
import FrameFeed.Decimal.Reading
import FrameFeed.Decimal.Shortest
import FrameFeed.Exchange.Client
import FrameFeed.Exchange.Error
import FrameFeed.Exchange.Network
import FrameFeed.Exchange.Reply
import FrameFeed.Exchange.Request
import FrameFeed.Exchange.RequestType
import FrameFeed.Exchange.Router
import FrameFeed.Exchange.Server
import FrameFeed.Exchange.Service
import FrameFeed.Exchange.Session
import FrameFeed.Feed.Handoff
import FrameFeed.Feed.Pattern
import FrameFeed.Feed.Producer
import FrameFeed.Feed.Scripted
import FrameFeed.Feed.Sink
import FrameFeed.Feed.Slot
import FrameFeed.Feed.Source
import FrameFeed.Frame.Camera
import FrameFeed.Frame.ColorSpace
import FrameFeed.Frame.ElementType
import FrameFeed.Frame.Error
import FrameFeed.Frame.Layout
import FrameFeed.Frame.Metadata
import FrameFeed.Frame.NameError
import FrameFeed.Frame.Outline
import FrameFeed.Frame.View
import FrameFeed.Json.Basic
import FrameFeed.Json.Decoder
import FrameFeed.Json.Fault
import FrameFeed.Json.Parser
import FrameFeed.Json.Position
import FrameFeed.Json.Printer
import FrameFeed.Json.Scan
import FrameFeed.Main
import FrameFeed.Text.Blank
import FrameFeed.Text.Columns
import FrameFeed.Text.Emoji
import FrameFeed.Text.Ligature
import FrameFeed.Text.Parts
import FrameFeed.Text.Printable
import FrameFeed.Text.Quoted
import FrameFeed.Text.Width
import FrameFeed.Wire.Connection
import FrameFeed.Wire.Error
import FrameFeed.Wire.Message
import FrameFeed.Wire.Space
import FrameFeed.Wire.Stream
import FrameFeed.Proofs.Address.Advertised
import FrameFeed.Proofs.Address.Binding
import FrameFeed.Proofs.Address.Ownership
import FrameFeed.Proofs.Address.Reading
import FrameFeed.Proofs.Client.Deadlines
import FrameFeed.Proofs.Client.Faults
import FrameFeed.Proofs.Client.Lockstep
import FrameFeed.Proofs.Client.Plan
import FrameFeed.Proofs.Client.Views
import FrameFeed.Proofs.Command.Grabbing
import FrameFeed.Proofs.Command.Results
import FrameFeed.Proofs.Decimal.Rounding
import FrameFeed.Proofs.Exchange.Messages
import FrameFeed.Proofs.Exchange.Metadata
import FrameFeed.Proofs.Exchange.Relay
import FrameFeed.Proofs.Frame.Names
import FrameFeed.Proofs.Frame.Size
import FrameFeed.Proofs.Json.AnyOrder
import FrameFeed.Proofs.Json.Doubles
import FrameFeed.Proofs.Json.Rereading
import FrameFeed.Proofs.Json.RoundTrip
import FrameFeed.Proofs.Json.Skipping
import FrameFeed.Proofs.Json.Words
import FrameFeed.Proofs.Network.Departure
import FrameFeed.Proofs.Network.Exchange
import FrameFeed.Proofs.Network.Lines
import FrameFeed.Proofs.Network.Results
import FrameFeed.Proofs.Network.Served
import FrameFeed.Proofs.Network.Sharing
import FrameFeed.Proofs.Network.Shutdown
import FrameFeed.Proofs.Session.Course
import FrameFeed.Proofs.Session.Parting
import FrameFeed.Proofs.Session.Poisoning
import FrameFeed.Proofs.Session.Violation
import FrameFeed.Proofs.Slot.Claims
import FrameFeed.Proofs.Slot.Counters
import FrameFeed.Proofs.Slot.Delivery
import FrameFeed.Proofs.Slot.History
import FrameFeed.Proofs.Slot.Moves
import FrameFeed.Proofs.Slot.Reports
import FrameFeed.Proofs.Slot.Showing
import FrameFeed.Proofs.Slot.Termination
import FrameFeed.Proofs.Source.Checkerboard
import FrameFeed.Proofs.Source.Contract
import FrameFeed.Proofs.Source.Copying
import FrameFeed.Proofs.Source.Feeding
import FrameFeed.Proofs.Source.Keeping
import FrameFeed.Proofs.Source.Numbering
import FrameFeed.Proofs.Source.Whole
import FrameFeed.Proofs.Text.Cuts
import FrameFeed.Proofs.Wire.Acceptance
import FrameFeed.Proofs.Wire.Emission
import FrameFeed.Proofs.Wire.Framing
import FrameFeed.Proofs.Wire.Reception
import FrameFeed.Proofs.Wire.RoundTrip
import FrameFeed.Proofs.Wire.Traffic
