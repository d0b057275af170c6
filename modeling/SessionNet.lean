import SessionNet.Dispatch.Script
import SessionNet.Proofs.Frame.Shape
import SessionNet.Server.Plan
import SessionNet.Server.Run
import SessionNet.Settings.Environment
import SessionNet.Proofs.Frame.Stream
import SessionNet.Proofs.Frame.Layout
import SessionNet.Proofs.Frame.Writing
import SessionNet.Proofs.Frame.RoundTrip
import SessionNet.Proofs.Frame.Grammar
import SessionNet.Proofs.Cipher.XChaCha
import SessionNet.Proofs.Compression.Lz4
import SessionNet.Proofs.Codec.RoundTrip
import SessionNet.Proofs.Codec.Limits
import SessionNet.Proofs.Session.Identity
import SessionNet.Proofs.Session.Secondary
import SessionNet.Proofs.Dispatch.Handling
import SessionNet.Proofs.Dispatch.Stages
import SessionNet.Proofs.Dispatch.Association
import SessionNet.Proofs.Server.Closing
import SessionNet.Proofs.Dispatch.Keeping
import SessionNet.Proofs.Server.Operations
import SessionNet.Proofs.Dispatch.LiveIndex
import SessionNet.Proofs.Dispatch.Handover
import SessionNet.Proofs.Dispatch.Notices
import SessionNet.Proofs.Dispatch.Orderly
import SessionNet.Proofs.Dispatch.Trace
import SessionNet.Proofs.Server.Teardown
import SessionNet.Proofs.Session.PartialWrites
import SessionNet.Proofs.Session.Emissions
import SessionNet.Proofs.Server.Traffic
import SessionNet.Proofs.Server.Scheduling
import SessionNet.Proofs.Server.Secrecy
import SessionNet.Proofs.Dispatch.Effects
import SessionNet.Proofs.Dispatch.Admission
import SessionNet.Proofs.Server.Capacity
import SessionNet.Proofs.Dispatch.EarlyRefusal
import SessionNet.Proofs.Dispatch.Reconnection
import SessionNet.Proofs.Server.Lifetime
import SessionNet.Proofs.Dispatch.Lockstep
import SessionNet.Proofs.Dispatch.Timing
import SessionNet.Proofs.Session.Tally
import SessionNet.Proofs.Server.Custody
import SessionNet.Proofs.Session.Conveyance
import SessionNet.Proofs.Session.Allocation
import SessionNet.Proofs.Server.Rewiring
import SessionNet.Proofs.Dispatch.Handshake
import SessionNet.Proofs.Codec.Datagram
import SessionNet.Proofs.Server.Incidents
import SessionNet.Proofs.Server.Datagrams
import SessionNet.Proofs.Server.Streams
import SessionNet.Proofs.Server.InboundPaths
import SessionNet.Proofs.Codec.PrefixFree
import SessionNet.Proofs.Frame.Bounds
import SessionNet.Proofs.Format.MessagePack
import SessionNet.Proofs.Format.Json
import SessionNet.Proofs.Format.Bincode
import SessionNet.Proofs.Compression.Cap
import SessionNet.Proofs.Server.Gate
import SessionNet.Proofs.Dispatch.Isolation
import SessionNet.Proofs.Frame.Recovery
import SessionNet.Proofs.Cipher.Key
import SessionNet.Proofs.Server.Multicast
import SessionNet.Proofs.Session.Attachment
