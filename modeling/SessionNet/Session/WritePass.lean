import SessionNet.Codec
import SessionNet.Session.Basic

/-!
# Write passes

A writer serves one session at a time. A pass first writes what is left of a packet written in part,
then takes packets off the queue, as many as the budget allows, encodes each and writes it to the
tunnel, the datagram path, the stream or the sink. When the stream takes no more, the rest of the
packet is kept and the pass ends.
-/

namespace SessionNet

/-- What encoding and sending draw on: the codec, the next nonce and the way out for datagrams. -/
structure Supply where
  codec : CodecConfig := {}
  nonces : Nat := 0
  port : DatagramPort := {}

namespace Supply

def nonce (s : Supply) : Nonce × Supply := (Nonce.ofNat s.nonces, { s with nonces := s.nonces + 1 })

/-- The bytes of a packet on a stream, a sink or a tunnel. -/
def encodePacket (s : Supply) (packet : Packet) : Except NetError Bytes × Supply :=
  let (nonce, s) := s.nonce
  (s.codec.encodePacket nonce packet, s)

def encodeDatagram (s : Supply) (conveyance : UInt32) (packet : Packet) :
    Except NetError Bytes × Supply :=
  let (nonce, s) := s.nonce
  (s.codec.encodeDatagram nonce conveyance packet.payload packet.encrypted, s)

/-- Send a datagram to a client on a socket. -/
def send (s : Supply) (peer : DatagramPeer) (data : Bytes) : DatagramOutcome × Supply :=
  let (outcome, port) := s.port.send peer data
  (outcome, { s with port })

end Supply

/-- How a write pass ended. -/
inductive WritePass where
  /-- The queue is empty. -/
  | drained
  /-- The budget ran out with packets still queued. -/
  | yielded
  /-- The stream takes no more; the rest of a packet is pending. -/
  | blocked
  deriving DecidableEq, Repr

/-- A session and the supply after some writing, with its result. -/
structure Writing (α : Type) where
  session : Session
  supply : Supply
  result : Except NetError α

namespace Session

/-- Write bytes to the stream; the result is what it did not take. -/
def writeToStream (s : Session) (bytes : Bytes) : Session × Except NetError (Option Bytes) :=
  match s.transport with
  | .socket stream =>
    let round := writeAvailable stream.script bytes
    let s :=
      { s with
        transport := .socket
          { stream with script := round.script, wire := stream.wire ++ round.taken } }
    match round.result with
    | .ok written => (s.recordWritten written.count, .ok written.rest?)
    | .error e => (s, .error e)
  | _ => (s, .error .connectionClosed)

/-- Write bytes of a packet to the stream and keep the rest; says whether all were taken. -/
def writePacketBytes (s : Session) (packet : Packet) (bytes : Bytes) :
    Session × Except NetError Bool :=
  match s.writeToStream bytes with
  | (s, .ok none) => (s.recordSent, .ok true)
  | (s, .ok (some rest)) => ({ s with pending? := some ⟨packet, rest⟩ }, .ok false)
  | (s, .error e) => (s, .error e)

/-- Go on with the packet written in part; says whether none is left. -/
def resume (s : Session) : Session × Except NetError Bool :=
  match s.pending? with
  | none => (s, .ok true)
  | some pending => { s with pending? := none }.writePacketBytes pending.packet pending.rest

def sendTunnel (s : Session) (channel : TunnelChannel) (bytes : Bytes) :
    Session × Except NetError Unit :=
  match channel.tunnel.send .near bytes with
  | .error e => (s, .error e)
  | .ok tunnel =>
    match tunnel.flush .near with
    | .error e => ({ s with tunnel? := some { channel with tunnel } }, .error e)
    | .ok tunnel =>
      let s := { s with tunnel? := some { channel with tunnel } }
      ((s.recordWritten bytes.length).recordSent, .ok ())

/-- Send a packet over the tunnel or the datagram path; says whether the session has either. -/
def deliverUnordered (s : Session) (supply : Supply) (packet : Packet) : Writing Bool :=
  match s.tunnel?, s.datagram? with
  | some channel, _ =>
    match supply.encodePacket packet with
    | (.error e, supply) => ⟨s, supply, .error e⟩
    | (.ok bytes, supply) =>
      let (s, sent) := s.sendTunnel channel bytes
      ⟨s, supply, sent.map fun _ => true⟩
  | none, some channel =>
    match supply.encodeDatagram channel.conveyance packet with
    | (.error e, supply) => ⟨s, supply, .error e⟩
    | (.ok bytes, supply) =>
      match supply.send channel.peer bytes with
      | (.sent, supply) => ⟨(s.recordWritten bytes.length).recordSent, supply, .ok true⟩
      | (.blocked, supply) => ⟨s.recordDropped, supply, .ok true⟩
      | (.failed detail, supply) => ⟨s, supply, .error (.io detail)⟩
  | none, none => ⟨s, supply, .ok false⟩

/-- Write a packet to the primary transport; says whether all of it was taken. -/
def deliverPrimary (s : Session) (supply : Supply) (packet : Packet) : Writing Bool :=
  match supply.encodePacket packet with
  | (.error e, supply) => ⟨s, supply, .error e⟩
  | (.ok bytes, supply) =>
    match s.transport with
    | .socket _ =>
      let (s, written) := s.writePacketBytes packet bytes
      ⟨s, supply, written⟩
    | .webSocket sink =>
      match sink.send bytes with
      | .error e => ⟨s, supply, .error e⟩
      | .ok sink =>
        let s := { s with transport := .webSocket sink }
        ⟨(s.recordWritten bytes.length).recordSent, supply, .ok true⟩
    | .detached => ⟨s, supply, .error .connectionClosed⟩

/-- Write a packet taken off the queue; says whether the pass can go on. -/
def deliver (s : Session) (supply : Supply) (packet : Packet) : Writing Bool :=
  if packet.transport = .udp then
    match s.deliverUnordered supply packet with
    | ⟨s, supply, .ok false⟩ => s.deliverPrimary supply packet
    | delivered => delivered
  else s.deliverPrimary supply packet

/-- Take packets off the queue, at most `budget` of them, and write them. -/
def writeQueued : (budget : Nat) → (s : Session) → (supply : Supply) → Writing WritePass
  | 0, s, supply => ⟨s, supply, .ok (if s.queue.isEmpty then .drained else .yielded)⟩
  | budget + 1, s, supply =>
    match s.queue.take with
    | none => ⟨s, supply, .ok .drained⟩
    | some (packet, queue) =>
      match { s with queue }.deliver supply { packet with recipients? := none } with
      | ⟨s, supply, .ok true⟩ => writeQueued budget s supply
      | ⟨s, supply, .ok false⟩ => ⟨s, supply, .ok .blocked⟩
      | ⟨s, supply, .error e⟩ => ⟨s, supply, .error e⟩

def writePass (s : Session) (budget : Nat) (supply : Supply) : Writing WritePass :=
  match s.resume with
  | (s, .ok true) => writeQueued budget s supply
  | (s, .ok false) => ⟨s, supply, .ok .blocked⟩
  | (s, .error e) => ⟨s, supply, .error e⟩

end Session

end SessionNet
