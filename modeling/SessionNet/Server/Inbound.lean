import SessionNet.Server.Basic

/-!
# Inbound messages

Whatever way a message comes in, over a stream, a channel of whole messages, a tunnel or a
datagram, it becomes a request to the dispatcher: a connection request until its session is
associated, a session message afterwards. Input that does not decode closes the session it came in
on, except for a datagram, which is dropped.
-/

namespace SessionNet.Server

/-! ## Requests -/

/-- What a message of a session asks for, by how far the session's association has come. -/
def requestKind (association : AssociationState) (message : Message) : RequestKind :=
  if association = .done then .sessionMessage message else .connectionRequest message

/-- Hand a message of a session to the dispatcher; a refusal by a full shard is counted. -/
def submit (srv : Server) (id : SessionId) (message : Message) (transport : TransportKind) :
    Server × Except NetError Unit :=
  match srv.session? id with
  | none => (srv, .error .connectionClosed)
  | some s =>
    let srv := srv.update id Session.recordMessage
    match srv.dispatcher.enqueue ⟨.session id, requestKind s.association message, transport⟩ with
    | .ok dispatcher => ({ srv with dispatcher }, .ok ())
    | .error e =>
      match e with
      | .requestQueueFull _ => (srv.update id Session.recordRefused, .error e)
      | _ => (srv, .error e)

/-- Count bytes read on a session. -/
def recordRead (srv : Server) (id : SessionId) (count : Nat) : Server :=
  srv.update id (·.recordRead count)

/-- Record activity on a session. -/
def touch (srv : Server) (id : SessionId) : Server := srv.update id (·.touch srv.now)

/-! ## Streams -/

/-- The server and a stream's reader after some reading, with the fault that ended it. -/
structure Reading where
  server : Server
  reader : StreamReader
  result : Except NetError Unit

/-- Submit every complete message that a reader holds, up to the first fault. -/
def submitFrames (srv : Server) (id : SessionId) (reader : StreamReader) : Reading :=
  match _h : reader.decoder.decode reader.unread with
  | ⟨decoder, unread, .error e⟩ => ⟨srv, ⟨decoder, unread⟩, .error e⟩
  | ⟨decoder, unread, .ok none⟩ => ⟨srv, ⟨decoder, unread⟩, .ok ()⟩
  | ⟨decoder, unread, .ok (some wire)⟩ =>
    match srv.supply.codec.openMessage wire with
    | .error e => ⟨srv, ⟨decoder, unread⟩, .error e⟩
    | .ok message => submitFrames (srv.submit id message .tcp).1 id ⟨decoder, unread⟩
termination_by reader.unread.length
decreasing_by
  have hlt : (reader.decoder.decode reader.unread).rest.length < reader.unread.length :=
    FrameDecoder.decode_rest_lt (by rw [_h])
  rw [_h] at hlt
  exact hlt

/-- Keep the reader of a session's stream. -/
def keepReader (srv : Server) (id : SessionId) (reader : StreamReader) : Server :=
  { srv with readers := { srv.readers with
      streams := (id, reader) :: srv.readers.streams.filter (·.1 != id) } }

/-- Start reading the stream of a session. -/
def openReader (srv : Server) (id : SessionId) : Server :=
  srv.keepReader id ⟨srv.supply.codec.frameDecoder, []⟩

/-- The reader of a session's stream; one that has read nothing if there is none yet. -/
def readerOf (srv : Server) (id : SessionId) : StreamReader :=
  (srv.readers.streams.lookup id).getD ⟨srv.supply.codec.frameDecoder, []⟩

/-- Take in bytes of a stream, and submit the messages that are complete. -/
def feedStream (srv : Server) (id : SessionId) (data : Bytes) : Server × Except NetError Unit :=
  let reader := srv.readerOf id
  let reading := srv.submitFrames id { reader with unread := reader.unread ++ data }
  (reading.server.keepReader id reading.reader, reading.result)

/-- Bytes arrived on the stream of an active session; a fault closes the session. -/
def streamReceived (srv : Server) (id : SessionId) (data : Bytes) : Server :=
  if !srv.roster.isActive id then srv
  else
    match ((srv.recordRead id data.length).touch id).feedStream id data with
    | (srv, .ok ()) => srv
    | (srv, .error _) => (srv.close id .protocolViolation).2

def streamEnded (srv : Server) (id : SessionId) : Server := (srv.close id .peerClosed).2

def streamFailed (srv : Server) (id : SessionId) : Server := (srv.close id .readError).2

/-! ## Channels of whole messages -/

/-- A message arrived on the channel of a session; one that does not decode closes the session. -/
def webSocketReceived (srv : Server) (id : SessionId) (data : Bytes) :
    Server × Except NetError Unit :=
  if !srv.roster.isActive id then (srv, .error .connectionClosed)
  else
    let srv := srv.recordRead id data.length
    match srv.supply.codec.decode data with
    | .error e => ((srv.close id .protocolViolation).2, .error e)
    | .ok message => (srv.touch id).submit id message .webSocket

/-! ## Tunnels -/

/-- Take in the messages that arrived through a tunnel; says whether all of them decode. -/
def tunnelReceived (srv : Server) (id : SessionId) : List Bytes → Bool × Server
  | [] => (true, srv)
  | data :: rest =>
    let srv := (srv.update id (·.leaveInTunnel rest)).recordRead id data.length
    match srv.supply.codec.decode data with
    | .error _ => (false, (srv.close id .protocolViolation).2)
    | .ok message => ((srv.touch id).submit id message .udp).1.tunnelReceived id rest

/-- Fetch what has arrived through the tunnel of a session; says whether to go on polling it. -/
def fetchTunnel (srv : Server) (id : SessionId) : Bool × Server :=
  match srv.session? id with
  | none => (false, srv)
  | some s =>
    match s.tunnel? with
    | none => (false, srv)
    | some channel =>
      if !s.isActive || channel.tunnel.closed then (false, srv)
      else srv.tunnelReceived id channel.tunnel.near.inbox

/-- Bind a tunnel to a session and start polling it. -/
def addTunnel (srv : Server) (id : SessionId) (channel : TunnelChannel) :
    Server × Except NetError Unit :=
  match srv.roster.addTunnel id channel with
  | .error e => (srv, .error e)
  | .ok roster =>
    let srv := { srv with roster }
    if srv.readers.phase = .stopped then (srv, .error (.shutdown .reader))
    else
      let readers := { srv.readers with tunnels := srv.readers.tunnels ++ [id] }
      ({ srv with readers }, .ok ())

/-- Poll all tunnels once, and forget those that are gone. -/
def pollTunnels (srv : Server) : Server :=
  let (kept, srv) := srv.readers.tunnels.foldl (fun (kept, srv) id =>
    let (goesOn, srv) := srv.fetchTunnel id
    (if goesOn then kept ++ [id] else kept, srv)) ([], srv)
  { srv with readers := { srv.readers with tunnels := kept } }

/-! ## Datagrams -/

/-- Whether a session's datagram path leads to a client, over whichever socket. -/
def hasPathTo (srv : Server) (id : SessionId) (client : ClientId) : Bool :=
  ((srv.session? id).bind (·.datagram?)).any (·.peer.client == client)

/--
A datagram arrived. One that does not decode is dropped; one that names no conveyance asks for a
handshake; any other counts only if it comes from the client that the named session was bound for,
on any of the sockets.
-/
def datagramReceived (srv : Server) (peer : DatagramPeer) (data : Bytes) : Server :=
  match srv.supply.codec.decodeDatagram data with
  | .error _ => srv
  | .ok (conveyance, message) =>
    if conveyance = 0 then
      match srv.dispatcher.enqueue ⟨.peer peer, .datagramHandshake message, .udp⟩ with
      | .ok dispatcher => { srv with dispatcher }
      | .error _ => srv
    else
      match srv.roster.findConveyance? conveyance with
      | none => srv
      | some id =>
        if srv.hasPathTo id peer.client then
          (((srv.recordRead id data.length).touch id).submit id message .udp).1
        else srv

end SessionNet.Server
