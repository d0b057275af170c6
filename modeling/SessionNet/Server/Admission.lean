import SessionNet.Server.Inbound

/-!
# Admission of connections

A connection takes a slot of its address before its session exists; the session gives the slot back
when it closes. Without a slot there is no session.
-/

namespace SessionNet.Server

/-- Admit a connection: take a slot, create its session, and let the session hold the slot. -/
def admitSession (srv : Server) (remote : SocketAddress)
    (create : Roster → Except NetError (SessionId × Roster)) :
    Except NetError (SessionId × Server) :=
  match srv.roster.filter.reserve remote.ip with
  | .error e => .error e
  | .ok filter =>
    match create { srv.roster with filter } with
    | .error e => .error e
    | .ok (id, roster) =>
      .ok (id, { srv with roster := roster.update id fun s => { s with holdsSlot := true } })

/-- Create a session for a channel of whole messages accepted elsewhere. -/
def createWebSocket (srv : Server) (sink : Sink) (remote : SocketAddress) :
    Except NetError (SessionId × Server) :=
  srv.admitSession remote fun roster => roster.createWebSocket sink remote srv.now

/-- Create a session for an accepted stream and start reading it. -/
def acceptStream (srv : Server) (stream : Stream) (remote : SocketAddress) :
    Except NetError (SessionId × Server) :=
  match srv.admitSession remote fun roster => roster.createSocket stream remote srv.now with
  | .error e => .error e
  | .ok (id, srv) =>
    if srv.readers.phase = .stopped then .ok (id, (srv.close id .shutdown).2)
    else .ok (id, srv.openReader id)

end SessionNet.Server
