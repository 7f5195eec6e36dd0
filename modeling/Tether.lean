import Tether.Bench
import Tether.Binary64.Basic
import Tether.Binary64.Shortest
import Tether.Config
import Tether.Device.Attachment
import Tether.Device.Basic
import Tether.Device.Details
import Tether.Device.Inbound
import Tether.Device.Outbound
import Tether.Device.Pairing
import Tether.Device.Plugins
import Tether.Dict
import Tether.Env.Basic
import Tether.Env.Jobs
import Tether.Env.Work
import Tether.Event
import Tether.Fault
import Tether.Hub
import Tether.Identity.Fresh
import Tether.Identity.Kind
import Tether.Identity.Local
import Tether.Identity.Peer
import Tether.Journal
import Tether.Json.Basic
import Tether.Json.Number
import Tether.Json.Parser
import Tether.Json.Printer
import Tether.Json.Record
import Tether.Link.Basic
import Tether.Link.Callback
import Tether.Link.Delivery
import Tether.Outbox
import Tether.Packet.Basic
import Tether.Packet.Decoder
import Tether.Packet.Fields
import Tether.Packet.Wire
import Tether.Pairing.Event
import Tether.Pairing.Message
import Tether.Pairing.Session
import Tether.Pairing.Timed
import Tether.Plugin.Info
import Tether.Plugin.Registry
import Tether.Plugin.Roster
import Tether.Plugin.Shop
import Tether.Post
import Tether.Proofs.Device.Operation
import Tether.Proofs.Device.Steady
import Tether.Proofs.Env.Alike
import Tether.Proofs.Pairing.Agreement
import Tether.Proofs.Pairing.Consent
import Tether.Proofs.Pairing.Run
import Tether.Proofs.Plugin.Conduct
import Tether.Proofs.Settings.Reads
import Tether.Record
import Tether.Settings.Document
import Tether.Settings.File
import Tether.Settings.Ledger
import Tether.Settings.Store
import Tether.Sha256
import Tether.Status
import Tether.Text.Base64
import Tether.Text.Hex
import Tether.Text.Printable
import Tether.Text.Quoted
import Tether.Text.Utf8
import Tether.Toml.Basic
import Tether.Toml.Parser
import Tether.Toml.Scalar
import Tether.Toml.Text
import Tether.World
import Tether.Proofs.Device.Trust
import Tether.Proofs.Device.Certificate
import Tether.Proofs.Outbox.Move
import Tether.Proofs.Outbox.Slots
import Tether.Proofs.Env.Tally
import Tether.Proofs.Env.Traffic
import Tether.Proofs.Device.Resolution
import Tether.Proofs.Pairing.Loss
import Tether.Proofs.Device.Loss
import Tether.Proofs.Settings.Attempts
import Tether.Proofs.Device.Refusal
import Tether.Proofs.Dict.Order
import Tether.Proofs.Plugin.Reload
import Tether.Proofs.Plugin.Registered
import Tether.Proofs.Plugin.Orderly
import Tether.Proofs.Env.Handed
import Tether.Proofs.Device.Activation
import Tether.Proofs.Device.Routing
import Tether.Proofs.Device.Capabilities
import Tether.Proofs.Json.Reading
import Tether.Proofs.Json.Strings
import Tether.Proofs.Json.Numbers
import Tether.Proofs.Json.Values
import Tether.Proofs.Text.Utf8
import Tether.Proofs.Packet.Entering
import Tether.Proofs.Packet.RoundTrip
import Tether.Proofs.Packet.Accepted
import Tether.Proofs.Json.Found
import Tether.Proofs.Json.Layout
import Tether.Proofs.Binary64.Rounding
import Tether.Proofs.Binary64.Shortest
import Tether.Proofs.Json.Floats
import Tether.Proofs.Settings.Document
import Tether.Proofs.Settings.Kept
import Tether.Proofs.Settings.Reference
import Tether.Proofs.Settings.Mishap
import Tether.Proofs.Text.Base64
import Tether.Proofs.Device.Remembered
import Tether.Proofs.World.Devices
import Tether.Proofs.Hub.Sound
import Tether.Proofs.Hub.Run
import Tether.Proofs.Hub.Restart
import Tether.Proofs.Device.Observers
import Tether.Proofs.Pairing.Timers
import Tether.Proofs.Plugin.Tenure
import Tether.Proofs.Plugin.Bench
import Tether.Proofs.Device.Backing
import Tether.Proofs.Hub.Startup
import Tether.Proofs.Plugin.Standing
import Tether.Proofs.Plugin.Permissions
import Tether.Proofs.Plugin.Round
import Tether.Proofs.Device.Spellings
import Tether.Proofs.Env.Carried
import Tether.Proofs.Env.Wiring
import Tether.Proofs.Device.Fastened
import Tether.Proofs.World.Wired
import Tether.Proofs.Link.Failover
import Tether.Proofs.Device.Flags
import Tether.Proofs.Device.Parting
import Tether.Proofs.Env.Begun
import Tether.Proofs.Hub.Reached
import Tether.Proofs.Hub.Forgotten
import Tether.Proofs.Hub.LastWord
import Tether.Proofs.Plugin.Negotiation
import Tether.Proofs.Identity.Wire
import Tether.Proofs.Device.Introductions
import Tether.Proofs.Env.Slip
import Tether.Proofs.Link.Stops
import Tether.Proofs.Env.Serving
import Tether.Proofs.Env.Sending
import Tether.Proofs.Env.Underway
import Tether.Proofs.World.Apart
import Tether.Proofs.World.Rest
import Tether.Proofs.World.Blocking
import Tether.Proofs.Packet.Types
import Tether.Proofs.Packet.Fields
import Tether.Proofs.Toml.Strings
import Tether.Proofs.Toml.Numbers
import Tether.Proofs.Toml.Lines
import Tether.Proofs.Config.Saving
