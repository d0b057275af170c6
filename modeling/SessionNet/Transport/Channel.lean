import SessionNet.Dispatch.Event
import SessionNet.Transport.Sink
import SessionNet.Transport.Tunnel
import SessionNet.Transport.Write

/-!
# Transports of a session

A session has one primary transport, a stream or a sink of whole messages, and a stream session may
have a datagram path and a tunnel besides.
-/

namespace SessionNet

/-- A byte stream: how it behaves, what has been written to it, and whether it was shut down. -/
structure Stream where
  script : List WriteOutcome := []
  wire : Bytes := []
  shut : Bool := false
  /-- Whether a peer is known. -/
  connected : Bool := true
  deriving DecidableEq, Repr

/-- The primary transport. -/
inductive Transport where
  | detached
  | socket (stream : Stream)
  | webSocket (sink : Sink)
  deriving DecidableEq, Repr

namespace Transport

def kind : Transport → TransportKind
  | .detached => .unknown
  | .socket _ => .tcp
  | .webSocket _ => .webSocket

def close : Transport → Transport
  | .detached => .detached
  | .socket stream => .socket { stream with shut := true }
  | .webSocket sink => .webSocket sink.close

end Transport

/-- A datagram path: the client at its other end, the socket that leads there, and the id that names
the session. -/
structure DatagramChannel where
  leadingTo ::
  peer : DatagramPeer
  conveyance : UInt32
  deriving DecidableEq, Repr

/-- A path to a client through the first socket. -/
def DatagramChannel.mk (client : ClientId) (conveyance : UInt32) : DatagramChannel :=
  ⟨{ client }, conveyance⟩

/-- A tunnel bound to a session, which has the near end. -/
structure TunnelChannel where
  id : UInt32
  tunnel : Tunnel
  deriving DecidableEq, Repr

/-- What becomes of a datagram that is sent. -/
inductive DatagramOutcome where
  | sent
  /-- There is no room for it; it is lost. -/
  | blocked
  | failed (detail : String)
  deriving DecidableEq, Repr

/-- The way out for datagrams: outcomes of the next ones, of all others, and what was sent, with the
client and the socket of each. -/
structure DatagramPort where
  script : List DatagramOutcome := []
  otherwise : DatagramOutcome := .sent
  sent : List (DatagramPeer × Bytes) := []
  deriving DecidableEq, Repr

def DatagramPort.send (p : DatagramPort) (peer : DatagramPeer) (data : Bytes) :
    DatagramOutcome × DatagramPort :=
  let (outcome, script) :=
    match p.script with
    | outcome :: rest => (outcome, rest)
    | [] => (p.otherwise, [])
  match outcome with
  | .sent => (.sent, { p with script, sent := p.sent ++ [(peer, data)] })
  | outcome => (outcome, { p with script })

end SessionNet
