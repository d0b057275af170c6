import SessionNet.Server.Outbound

/-!
# Processing requests

A shard of the dispatcher turns each request into events and acts on the answers. The first message
of a session asks for an association: its handlers may hand over the identity of a live session, or
name an identity that is then bound. Whatever fails or panics on the way is contained to its
request, and an association under way falls back to the state none.
-/

namespace SessionNet.Server

/-! ## Events -/

/-- Carry out an action of a handler. -/
def act (srv : Server) : Action → Server × Except NetError Unit
  | .send id message false => srv.send id message
  | .send id message true => srv.sendDatagram id message
  | .close id reason => ((srv.close id reason).2, .ok ())
  | .associate id identity =>
    let srv := srv.transition id .none .doing
    ({ srv with roster := (srv.roster.associate identity id).2 }, .ok ())
  | .unregister kind => ({ srv with handlers := (srv.handlers.unregister kind).2 }, .ok ())

/-- Carry out actions in order, up to the first that fails. -/
def actAll (srv : Server) : List Action → Server × Except NetError Unit
  | [] => (srv, .ok ())
  | action :: rest =>
    match srv.act action with
    | (srv, .ok ()) => srv.actAll rest
    | failed => failed

/-- Deliver an event to its handler; without one it is unhandled. -/
def emit (srv : Server) (event : ServerEvent) : Server × Except HandlerFailure EventReply :=
  match srv.handlers.find? event.kind with
  | none => (srv.record (.event event false), .ok .unhandled)
  | some entry =>
    let response := entry.handler entry.calls event
    let srv := { srv.record (.event event true) with
      handlers := srv.handlers.countCall event.kind }
    match srv.actAll response.actions with
    | (srv, .ok ()) => (srv, response.outcome)
    | (srv, .error e) => (srv, .error (.failed e))

/-- Deliver an event whose answer does not matter. -/
def announce (srv : Server) (event : ServerEvent) : Server × Except HandlerFailure Unit :=
  match srv.emit event with
  | (srv, .ok _) => (srv, .ok ())
  | (srv, .error failure) => (srv, .error failure)

/-! ## Messages -/

/-- Deliver a message of an associated session; one from a closed session is dropped. -/
def deliverMessage (srv : Server) (id : SessionId) (message : Message)
    (transport : TransportKind) : Server × Except HandlerFailure Unit :=
  match srv.session? id with
  | none => (srv, .ok ())
  | some s =>
    if s.isActive then srv.announce (.sessionReadMessage id s.identity? transport message)
    else (srv, .ok ())

/-! ## Association -/

/-- Move an identity to a session and close the live session that held it. -/
def takeOver (srv : Server) (identity : String) (id : SessionId) : Server :=
  let (previous?, roster) := srv.roster.rebind identity id
  let srv := { srv with roster }
  match previous? with
  | some old => (srv.close old .reconnected).2
  | none => srv

/-- The other live session that holds an identity. -/
def liveHolder? (srv : Server) (identity : String) (id : SessionId) : Option SessionId :=
  (srv.roster.findIdentity? identity).filter fun old => srv.roster.isActive old && old != id

/-- Ask whether a session takes over an identity; says whether it did. -/
def offerReconnection (srv : Server) (id : SessionId) (message : Message) :
    Server × Except HandlerFailure Bool :=
  match srv.emit (.reconnectionRequest id message) with
  | (srv, .error failure) => (srv, .error failure)
  | (srv, .ok reply) =>
    match reply.identity? with
    | none => (srv, .ok false)
    | some identity =>
      if (srv.liveHolder? identity id).isNone then (srv, .ok false)
      else
        match (srv.takeOver identity id).announce (.reconnectionResult id identity .success) with
        | (srv, .ok ()) => (srv, .ok true)
        | (srv, .error failure) => (srv, .error failure)

/-- Refuse a session because no more identities are admitted. -/
def refuse (srv : Server) (id : SessionId) (message : Message) :
    Server × Except HandlerFailure Unit :=
  match srv.announce (.connectionEstablished id message .reachedMaxConnection) with
  | (srv, .error failure) => (srv, .error failure)
  | (srv, .ok ()) => (((srv.transition id .doing .none).close id .rejected).2, .ok ())

/-- Bind the identity that a handler named and announce the result. -/
def bindIdentity (srv : Server) (id : SessionId) (identity : String) :
    Server × Except HandlerFailure Unit :=
  let (result, roster) := srv.roster.associate identity id
  let srv := { srv with roster }
  -- the handler may have bound the identity itself, while the attempt was under way
  let srv := if result = .alreadyAssociated then srv.transition id .doing .done else srv
  match srv.announce (.associationResult id identity result) with
  | (srv, .error failure) => (srv, .error failure)
  | (srv, .ok ()) =>
    if result = .limitReached then ((srv.close id .rejected).2, .ok ()) else (srv, .ok ())

/-- Establish the connection of a session that takes over no identity. -/
def establish (srv : Server) (id : SessionId) (message : Message) :
    Server × Except HandlerFailure Unit :=
  if srv.roster.atCapacity then srv.refuse id message
  else
    match srv.emit (.connectionEstablished id message .success) with
    | (srv, .error failure) => (srv, .error failure)
    | (srv, .ok reply) =>
      match reply.identity? with
      | none => (srv.transition id .doing .none, .ok ())
      | some identity => srv.bindIdentity id identity

/-- Associate a session on behalf of its message, unless that is under way or the session closed. -/
def answerConnection (srv : Server) (id : SessionId) (message : Message) :
    Server × Except HandlerFailure Unit :=
  if !srv.roster.isActive id then (srv, .ok ())
  else if srv.roster.association? id ≠ some .none then (srv, .ok ())
  else
    let srv := srv.transition id .none .doing
    if srv.reconnection then
      match srv.offerReconnection id message with
      | (srv, .error failure) => (srv, .error failure)
      | (srv, .ok true) => (srv, .ok ())
      | (srv, .ok false) => srv.establish id message
    else srv.establish id message

/-! ## Datagram handshakes -/

/-- Give the stream session that holds an identity a datagram path to a client, through the socket
on which it was heard. -/
def grantPath (srv : Server) (peer : DatagramPeer) (identity : String) :
    (DatagramAccess × UInt32) × Server :=
  match srv.roster.findIdentity? identity with
  | none => ((.sessionNotFound, 0), srv)
  | some id =>
    match srv.session? id with
    | none => ((.sessionNotFound, 0), srv)
    | some s =>
      if !s.isActive || s.transport.kind != .tcp then ((.sessionNotFound, 0), srv)
      else if s.datagram?.isSome then ((.alreadyBound, 0), srv)
      else
        match srv.roster.nextConveyance? with
        | none => ((.alreadyBound, 0), srv)
        | some (conveyance, roster) =>
          match roster.addDatagram id ⟨peer, conveyance⟩ with
          | .ok roster => ((.success, conveyance), { srv with roster })
          | .error _ => ((.alreadyBound, 0), { srv with roster })

def handshakeReply (access : DatagramAccess) (conveyance : UInt32) : Message :=
  (Message.empty.insert "conveyance_id" (.int (Int64.ofNat conveyance.toNat))).insert "result"
    (.int access.code)

/-- Answer a handshake with a datagram on the socket it came on; that the datagram is not sent is no
failure. -/
def replyToHandshake (srv : Server) (peer : DatagramPeer) (access : DatagramAccess)
    (conveyance : UInt32) : Server × Except HandlerFailure Unit :=
  let (nonce, supply) := srv.supply.nonce
  match supply.codec.encodeAsDatagram nonce conveyance (handshakeReply access conveyance) with
  | .error e => ({ srv with supply }, .error (.failed e))
  | .ok bytes => ({ srv with supply := (supply.send peer bytes).2 }, .ok ())

/-- Handle a handshake: validate it, bind, answer, and announce the result. -/
def answerHandshake (srv : Server) (peer : DatagramPeer) (message : Message) :
    Server × Except HandlerFailure Unit :=
  match srv.emit (.datagramChannelValidation peer.client message) with
  | (srv, .error failure) => (srv, .error failure)
  | (srv, .ok reply) =>
    let ((access, conveyance), srv) :=
      match reply.identity? with
      | none => ((DatagramAccess.invalidIdentity, 0), srv)
      | some identity => srv.grantPath peer identity
    -- a reply that cannot be made ends the request; the path that was bound stays
    match srv.replyToHandshake peer access conveyance with
    | (srv, .error failure) => (srv, .error failure)
    | (srv, .ok ()) => srv.announce (.datagramChannelResult reply.identity? conveyance access)

/-! ## Requests -/

def handleFrom (srv : Server) (id : SessionId) (transport : TransportKind) :
    RequestKind → Server × Except HandlerFailure Unit
  | .connectionRequest message =>
    if srv.roster.association? id = some .done then srv.deliverMessage id message transport
    else srv.answerConnection id message
  | .sessionMessage message => srv.deliverMessage id message transport
  | .sessionClosed reason =>
    srv.announce (.sessionWillBeClosed id ((srv.session? id).bind (·.identity?)) reason)
  | .datagramHandshake message =>
    (srv, .error (.failed (unexpected (.datagramHandshake message) "a session")))
where
  /-- A request that its sender cannot make. -/
  unexpected (kind : RequestKind) (sender : String) : NetError :=
    .invalidArgument (.unexpectedRequest kind.name sender)

def handle (srv : Server) (request : Request) : Server × Except HandlerFailure Unit :=
  match request.sender, request.kind with
  | .session id, kind => srv.handleFrom id request.transport kind
  | .peer peer, .datagramHandshake message => srv.answerHandshake peer message
  | .peer _, kind => (srv, .error (.failed (handleFrom.unexpected kind "a client")))

/-- Handle a request and contain its failure. -/
def process (srv : Server) (request : Request) : Server :=
  match srv.handle request, request.sender with
  | (srv, .error _), .session id => srv.transition id .doing .none
  | (srv, _), _ => srv

/-! ## Shards -/

/-- Let a shard process its oldest request. -/
def shardStep (srv : Server) (shard : Nat) : Server :=
  match srv.dispatcher.takeFrom shard with
  | none => srv
  | some (queued, dispatcher) =>
    let srv := { srv with dispatcher }.process queued.request
    { srv with dispatcher := srv.dispatcher.finish shard queued }

/-- Let the shards process requests until none is left, at most `steps` of them. -/
def drainShards : (steps : Nat) → Server → Server
  | 0, srv => srv
  | steps + 1, srv =>
    match srv.dispatcher.busyShard? with
    | none => srv
    | some shard => drainShards steps (srv.shardStep shard)

/-- A bound on the requests until none is left: only the closing of a session adds one. -/
def shardWork (srv : Server) : Nat := srv.dispatcher.pending + srv.roster.sessions.length

end SessionNet.Server
