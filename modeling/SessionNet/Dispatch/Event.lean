import SessionNet.Message
import SessionNet.Packet
import SessionNet.Session.Lifecycle

/-!
# Requests and events

Requests flow from the transports into the dispatcher; events flow from the dispatcher to the
handlers of the application.
-/

namespace SessionNet

/-- Clients that send datagrams are known by number. -/
abbrev ClientId := Nat

/-- The sockets on which a server receives datagrams are known by number. They share one address, so
that a client may be heard on any of them. -/
abbrev SocketId := Nat

/-- The far end of datagrams: a client, and the socket on which it was heard and is answered. -/
structure DatagramPeer where
  client : ClientId
  socket : SocketId := 0
  deriving DecidableEq, Repr

/-- Who a request came from: a session, or a client whose first datagram names none. -/
inductive RequestSender where
  | session (id : SessionId)
  | peer (peer : DatagramPeer)
  deriving DecidableEq, Repr

/-- A client that was heard on the first socket. -/
def RequestSender.datagram (client : ClientId) : RequestSender := .peer { client }

/-- What is asked for. -/
inductive RequestKind where
  /-- A message from a session that is not associated yet. -/
  | connectionRequest (message : Message)
  /-- A message from an associated session. -/
  | sessionMessage (message : Message)
  /-- A datagram that asks for a conveyance id. -/
  | datagramHandshake (message : Message)
  | sessionClosed (reason : CloseReason)
  deriving BEq, Repr

def RequestKind.name : RequestKind → String
  | .connectionRequest _ => "connection_request"
  | .sessionMessage _ => "session_message"
  | .datagramHandshake _ => "datagram_handshake"
  | .sessionClosed _ => "session_closed"

/-- An envelope that a dispatcher shard takes once. -/
structure Request where
  sender : RequestSender
  kind : RequestKind
  transport : TransportKind
  deriving BEq, Repr

/-- Whether a connection attempt may go on. -/
inductive ConnectionResult where
  | success
  /-- The most identities are already bound; the session is closed after the event. -/
  | reachedMaxConnection
  deriving DecidableEq, Repr

def ConnectionResult.key : ConnectionResult → String
  | .success => "success"
  | .reachedMaxConnection => "reached_max_connection"

instance : Keyed ConnectionResult := ⟨[.success, .reachedMaxConnection], ConnectionResult.key⟩

/-- The answer to a datagram handshake. -/
inductive DatagramAccess where
  | success
  /-- The handler did not recognise the handshake. -/
  | invalidIdentity
  /-- No live stream session holds the identity. -/
  | sessionNotFound
  /-- The session already has a datagram path. -/
  | alreadyBound
  deriving DecidableEq, Repr

namespace DatagramAccess

def key : DatagramAccess → String
  | .success => "success"
  | .invalidIdentity => "invalid_identity"
  | .sessionNotFound => "session_not_found"
  | .alreadyBound => "already_bound"

/-- The number sent to the client. -/
def code : DatagramAccess → Int64
  | .success => 0
  | .invalidIdentity => 1
  | .sessionNotFound => 2
  | .alreadyBound => 3

instance : Keyed DatagramAccess :=
  ⟨[.success, .invalidIdentity, .sessionNotFound, .alreadyBound], key⟩

end DatagramAccess

/-- The kinds of events. -/
inductive EventKind where
  | reconnectionRequest
  | reconnectionResult
  | connectionEstablished
  | associationResult
  | sessionReadMessage
  | sessionWillBeClosed
  | datagramChannelValidation
  | datagramChannelResult
  deriving DecidableEq, Repr

namespace EventKind

/-- The name used in data. -/
def key : EventKind → String
  | .reconnectionRequest => "reconnection_request"
  | .reconnectionResult => "reconnection_result"
  | .connectionEstablished => "connection_established"
  | .associationResult => "association_result"
  | .sessionReadMessage => "session_read_message"
  | .sessionWillBeClosed => "session_will_be_closed"
  | .datagramChannelValidation => "datagram_channel_validation"
  | .datagramChannelResult => "datagram_channel_result"

def name : EventKind → String
  | .reconnectionRequest => "ReconnectionRequest"
  | .reconnectionResult => "ReconnectionResult"
  | .connectionEstablished => "ConnectionEstablished"
  | .associationResult => "AssociationResult"
  | .sessionReadMessage => "SessionReadMessage"
  | .sessionWillBeClosed => "SessionWillBeClosed"
  | .datagramChannelValidation => "DatagramChannelValidation"
  | .datagramChannelResult => "DatagramChannelResult"

instance : Keyed EventKind :=
  ⟨[.reconnectionRequest, .reconnectionResult, .connectionEstablished, .associationResult,
    .sessionReadMessage, .sessionWillBeClosed, .datagramChannelValidation,
    .datagramChannelResult], key⟩

end EventKind

/-- Events delivered to the application. -/
inductive ServerEvent where
  | reconnectionRequest (session : SessionId) (message : Message)
  | reconnectionResult (session : SessionId) (identity : String) (result : AssociationResult)
  | connectionEstablished (session : SessionId) (message : Message) (result : ConnectionResult)
  | associationResult (session : SessionId) (identity : String) (result : AssociationResult)
  | sessionReadMessage (session : SessionId) (identity? : Option String)
      (transport : TransportKind) (message : Message)
  | sessionWillBeClosed (session : SessionId) (identity? : Option String) (reason : CloseReason)
  | datagramChannelValidation (client : ClientId) (message : Message)
  | datagramChannelResult (identity? : Option String) (conveyance : UInt32)
      (result : DatagramAccess)
  deriving BEq, Repr

namespace ServerEvent

def kind : ServerEvent → EventKind
  | .reconnectionRequest .. => .reconnectionRequest
  | .reconnectionResult .. => .reconnectionResult
  | .connectionEstablished .. => .connectionEstablished
  | .associationResult .. => .associationResult
  | .sessionReadMessage .. => .sessionReadMessage
  | .sessionWillBeClosed .. => .sessionWillBeClosed
  | .datagramChannelValidation .. => .datagramChannelValidation
  | .datagramChannelResult .. => .datagramChannelResult

/-- The session that an event hands to its handler; a closing session is only named, not handed
over. -/
def session? : ServerEvent → Option SessionId
  | .reconnectionRequest session _ => some session
  | .reconnectionResult session .. => some session
  | .connectionEstablished session .. => some session
  | .associationResult session .. => some session
  | .sessionReadMessage session .. => some session
  | .sessionWillBeClosed .. => none
  | .datagramChannelValidation .. => none
  | .datagramChannelResult .. => none

def message? : ServerEvent → Option Message
  | .reconnectionRequest _ message => some message
  | .connectionEstablished _ message _ => some message
  | .sessionReadMessage _ _ _ message => some message
  | .datagramChannelValidation _ message => some message
  | _ => none

end ServerEvent

/-- What a handler answers. -/
inductive EventReply where
  | unhandled
  | handled
  /-- An identity, or none, for events that ask for one. -/
  | identity (identity? : Option String)
  deriving DecidableEq, Repr

def EventReply.identity? : EventReply → Option String
  | .identity identity? => identity?
  | _ => none

end SessionNet
