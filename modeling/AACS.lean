import AACS.Library.BigEndian
import AACS.Library.Chunking
import AACS.Library.Effects
import AACS.Library.Exchange
import AACS.Library.FanOut
import AACS.Library.Fifo
import AACS.Library.History
import AACS.Library.LastWrite
import AACS.Library.Phases
import AACS.Library.RecordLayer
import AACS.Library.RecordQueue
import AACS.Library.Simulation
import AACS.Library.Transitions
import AACS.Protocol.Message
import AACS.Protocol.Exceptions
import AACS.Protocol.Handler
import AACS.Protocol.Fragment
import AACS.Protocol.Protobuf
import AACS.Sender.Queue
import AACS.Sender.Conformance
import AACS.Sender.Progress
import AACS.Client.Receive
import AACS.Client.RoundTrip
import AACS.Client.Acceptance
import AACS.Client.Setup
import AACS.Client.Faults
import AACS.Client.Dispatch
import AACS.Client.Discovery
import AACS.Client.Session
import AACS.Client.Presence
import AACS.Client.UsbWriter
import AACS.Client.Bounds
import AACS.Client.Timestamps
import AACS.Client.Numbers
import AACS.Server.Pump
import AACS.Server.RoundTrip
import AACS.Server.InnerLoop
import AACS.Server.Chunks
import AACS.Server.ShortWrites
import AACS.Server.Records
import AACS.Server.ModeSwitcher
import AACS.Server.State
import AACS.Server.Handlers
import AACS.Server.Communicator
import AACS.Server.Discovery
import AACS.Server.Clients
import AACS.Server.Packets
import AACS.Server.Machine
import AACS.Server.Routing
import AACS.Server.Isolation
import AACS.Server.Frames
import AACS.Server.Turns
import AACS.Server.Registry
import AACS.Server.Cleanup
import AACS.Server.Replies
import AACS.Server.Tables
import AACS.Server.Accesses
import AACS.Server.Bounds
import AACS.Server.Presence
import AACS.Server.Process
import AACS.Server.Endings
import AACS.Server.Descriptors
import AACS.Server.Flags
import AACS.Server.Shutdown
import AACS.Server.Milestones
import AACS.Server.VideoOpening
import AACS.Server.InputOpening
import AACS.Server.Wakeup
import AACS.Server.OwnAnswers
import AACS.Server.Link
import AACS.Server.Recipients
import AACS.Server.Encrypted
import AACS.Server.Encryption
import AACS.Server.Audience
import AACS.Server.Delivery
import AACS.Server.Announced
import AACS.Server.ChannelTypes
import AACS.Server.Unsolicited
import AACS.Server.Listening
import AACS.Server.Streaming
import AACS.Server.Ordinary
import AACS.Server.Statements
import AACS.Server.Waiting
import AACS.GetEvents.Main
import AACS.GetEvents.Injections
import AACS.GetEvents.Session
import AACS.Proxy.Path
import AACS.Proxy.Transparency
import AACS.Proxy.HandlerTables
import AACS.Proxy.Descriptor
import AACS.Proxy.Media
import AACS.Client.Pipeline
import AACS.Proxy.Forwarding
import AACS.Client.Answers
import AACS.Proxy.System
import AACS.Proxy.Downstream
import AACS.Proxy.Upstream
import AACS.Proxy.Channels
import AACS.Proxy.InputPath
import AACS.GetEvents.Seat
import AACS.Cable.Cable
import AACS.Cable.Setup
import AACS.Cable.Video
import AACS.Cable.Opening
import AACS.Cable.Lanes
import AACS.Cable.Streams
import AACS.Cable.Wire
import AACS.Cable.Refinement
import AACS.Cable.Arrival
import AACS.Cable.Samples
