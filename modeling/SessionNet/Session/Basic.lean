import SessionNet.PacketQueue
import SessionNet.Session.Lifecycle
import SessionNet.Time
import SessionNet.Transport.Address
import SessionNet.Transport.Channel

/-!
# Sessions

What the server keeps for one client connection: its transports, its queue of packets, how far it
has come with its association, and its counters. A session is active from its activation until it is
closed. Closing it tears everything down and is done once; the reason stays.
-/

namespace SessionNet

/-- What a session has read, written and lost. -/
structure Counters where
  bytesRead : Nat := 0
  bytesWritten : Nat := 0
  messagesRead : Nat := 0
  packetsWritten : Nat := 0
  packetsDropped : Nat := 0
  /-- Messages refused by a full shard of the dispatcher. -/
  requestsDropped : Nat := 0
  deriving DecidableEq, Repr

/-- A packet of which some bytes are written and the rest is not. -/
structure PendingWrite where
  packet : Packet
  rest : Bytes
  deriving DecidableEq, Repr

/-- One client connection. -/
structure Session where
  remote? : Option SocketAddress
  queue : PacketQueue
  /-- In microseconds. -/
  maxIdle : Nat
  /-- In microseconds. -/
  orphanAllowance : Nat
  createdAt : Instant
  /-- In whole milliseconds after the creation. -/
  lastActivity : Nat := 0
  association : AssociationState := .none
  identity? : Option String := none
  transport : Transport := .detached
  datagram? : Option DatagramChannel := none
  tunnel? : Option TunnelChannel := none
  isActive : Bool := false
  closeReason? : Option CloseReason := none
  counters : Counters := {}
  pending? : Option PendingWrite := none
  /-- Whether it is on a writer's run queue or being written. -/
  writeScheduled : Bool := false
  /-- Whether its reader is to resume writing once the stream takes bytes again. -/
  awaitsWritable : Bool := false
  /-- Whether it holds a slot of its address. -/
  holdsSlot : Bool := false
  /-- Whether its closing is reported. -/
  isManaged : Bool := false

namespace Session

/-! ## Life -/

/-- Activate a session that was never closed. -/
def activate (s : Session) : Session :=
  if s.closeReason?.isNone then { s with isActive := true } else s

/-- Clear the active flag and tear nothing down; says whether it was set. -/
def deactivate (s : Session) : Bool × Session := (s.isActive, { s with isActive := false })

/-- Packets lost when the session closes: those queued and the one partly written. -/
def unsent (s : Session) : Nat := s.queue.length + s.pending?.toList.length

/-- An active session after it was closed for a reason. -/
def tearDown (s : Session) (reason : CloseReason) : Session :=
  { s with
    isActive := false
    closeReason? := s.closeReason? <|> some reason
    holdsSlot := false
    queue := s.queue.clear.2
    pending? := none
    counters := { s.counters with packetsDropped := s.counters.packetsDropped + s.unsent }
    transport := s.transport.close
    tunnel? := s.tunnel?.map fun channel => { channel with tunnel := channel.tunnel.close }
    awaitsWritable := true }

/-! ## Association -/

/-- Move to a state if the current one is `source`; says whether it was. -/
def transition (s : Session) (source target : AssociationState) : Bool × Session :=
  if s.association = source then (true, { s with association := target }) else (false, s)

/-! ## Timers -/

def touch (s : Session) (now : Instant) : Session :=
  { s with lastActivity := max s.lastActivity (elapsed s.createdAt now / microsPerMilli) }

def lastActive (s : Session) : Instant := s.createdAt + s.lastActivity * microsPerMilli

/-- Whether there has been no activity for too long. -/
def isIdleAt (s : Session) (now : Instant) : Bool := s.maxIdle < elapsed s.lastActive now

/-- Whether the session is still not associated after the time allowed for it. -/
def isOrphanAt (s : Session) (now : Instant) : Bool :=
  s.association != .done && s.orphanAllowance < elapsed s.createdAt now

/-! ## Transports -/

/-- Attach the primary transport; the first one stays. -/
def attach (s : Session) (transport : Transport) : Except NetError Session :=
  if s.transport.kind = .unknown then .ok { s with transport }
  else .error (.illegalState .transportAttached)

/-- Attach a stream, which must have a peer. -/
def attachSocket (s : Session) (stream : Stream) : Except NetError Session :=
  if stream.connected then s.attach (.socket stream) else .error (.invalidArgument .detachedSocket)

/-- Attach a sink of whole messages. -/
def attachWebSocket (s : Session) (sink : Sink) : Except NetError Session :=
  s.attach (.webSocket sink)

/-- Attach a datagram path to a stream session; the first one stays. -/
def attachDatagram (s : Session) (channel : DatagramChannel) : Except NetError Session :=
  if channel.conveyance = 0 then .error (.invalidArgument .zeroConveyance)
  else if s.transport.kind ≠ .tcp then .error (.illegalState .notStreamSession)
  else if s.datagram?.isSome then .error (.illegalState .transportAttached)
  else .ok { s with datagram? := some channel }

/-- Attach a tunnel to a stream session; the first one stays. -/
def attachTunnel (s : Session) (channel : TunnelChannel) : Except NetError Session :=
  if s.transport.kind ≠ .tcp then .error (.illegalState .notStreamSession)
  else if s.tunnel?.isSome then .error (.illegalState .transportAttached)
  else .ok { s with tunnel? := some channel }

/-! ## Counting -/

def recordWritten (s : Session) (count : Nat) : Session :=
  { s with counters := { s.counters with bytesWritten := s.counters.bytesWritten + count } }

/-- Count a packet written. -/
def recordSent (s : Session) : Session :=
  { s with counters := { s.counters with packetsWritten := s.counters.packetsWritten + 1 } }

def recordDropped (s : Session) : Session :=
  { s with counters := { s.counters with packetsDropped := s.counters.packetsDropped + 1 } }

def recordRead (s : Session) (count : Nat) : Session :=
  { s with counters := { s.counters with bytesRead := s.counters.bytesRead + count } }

def recordMessage (s : Session) : Session :=
  { s with counters := { s.counters with messagesRead := s.counters.messagesRead + 1 } }

/-- Count a message refused by a full shard. -/
def recordRefused (s : Session) : Session :=
  { s with counters := { s.counters with requestsDropped := s.counters.requestsDropped + 1 } }

/-! ## Packets and messages -/

/-- Queue a packet; a refusal by the queue of an active session counts the packet as dropped. -/
def enqueue (s : Session) (packet : Packet) : Session × Except NetError Unit :=
  if !s.isActive then (s, .error (.illegalState .sessionInactive))
  else
    match s.queue.put packet with
    | .ok queue => ({ s with queue }, .ok ())
    | .error fault => (s.recordDropped, .error fault.toError)

/-- Leave these messages to be received through the tunnel. -/
def leaveInTunnel (s : Session) (inbox : List Bytes) : Session :=
  { s with tunnel? := s.tunnel?.map fun channel =>
      let near := { channel.tunnel.near with inbox }
      { channel with tunnel := { channel.tunnel with near } } }

end Session

end SessionNet
