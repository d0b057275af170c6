import SessionNet.Dispatch.Dispatcher
import SessionNet.Dispatch.Handler
import SessionNet.Session.Roster
import SessionNet.Session.WritePass

/-!
# Server state

Everything a server holds: its sessions, the dispatcher with the requests on their way, the writers'
run queues, the handlers, and the record of what happened. Closing a session goes through here,
because the dispatcher is told about it.
-/

namespace SessionNet

/-- Something that happened: an event, and whether it had a handler, or the end of a session. -/
inductive Occurrence where
  | event (event : ServerEvent) (delivered : Bool)
  | closed (session : SessionId) (reason : CloseReason)
  deriving BEq, Repr

/-- The writers: sessions waiting for each of them, oldest first, and packets served in a row. -/
structure Writers where
  queues : List (List SessionId)
  budget : Nat
  phase : StagePhase := .idle

/-- Writers with at least one worker and a budget of at least one packet. -/
def Writers.create (workers budget : Nat) : Writers :=
  { queues := List.replicate (max 1 workers) [], budget := max 1 budget }

def Writers.waiting (w : Writers) : Nat := (w.queues.map List.length).foldr (· + ·) 0

/-- The bytes read from one stream and not yet decoded, and the decoder for them. -/
structure StreamReader where
  decoder : FrameDecoder
  unread : Bytes := []
  deriving DecidableEq, Repr

/-- The readers: the streams they read and the sessions whose tunnels they poll. -/
structure Readers where
  streams : List (SessionId × StreamReader) := []
  tunnels : List SessionId := []
  phase : StagePhase := .idle

/-- Where a server is in its life. -/
structure Lifecycle where
  /-- Whether it was started and not shut down since. -/
  isStarted : Bool := false
  /-- Whether it was told to shut down. -/
  isShutDown : Bool := false
  deriving DecidableEq, Repr

/-- The state of a server. -/
structure Server where
  roster : Roster
  dispatcher : Dispatcher
  writers : Writers
  supply : Supply
  handlers : HandlerTable := {}
  reconnection : Bool := true
  /-- Whether the dispatcher is told about closed sessions. -/
  notifiesDispatcher : Bool := true
  readers : Readers := {}
  lifecycle : Lifecycle := {}
  nextPacket : Nat := 0
  now : Instant := 0
  /-- What happened, latest first. -/
  history : List Occurrence := []

namespace Server

/-- Record what happened. -/
def record (srv : Server) (o : Occurrence) : Server := { srv with history := o :: srv.history }

def session? (srv : Server) (id : SessionId) : Option Session := srv.roster.session? id

def update (srv : Server) (id : SessionId) (f : Session → Session) : Server :=
  { srv with roster := srv.roster.update id f }

/-- Move a session to an association state if its current one is `source`. -/
def transition (srv : Server) (id : SessionId) (source target : AssociationState) : Server :=
  { srv with roster := (srv.roster.transition id source target).2 }

/-- Hand a notice to the dispatcher; once that is stopped it is lost. -/
def notify (srv : Server) (request : Request) : Server :=
  match srv.dispatcher.enqueueNotice request with
  | .ok dispatcher => { srv with dispatcher }
  | .error _ => srv

/-- Report the end of a managed session. -/
def reportClosed (srv : Server) (id : SessionId) (transport : TransportKind)
    (reason : CloseReason) : Server :=
  let srv := srv.record (.closed id reason)
  if srv.notifiesDispatcher then
    srv.notify ⟨.session id, .sessionClosed reason, transport⟩
  else srv

/-- Close a session; says whether this call did it. -/
def close (srv : Server) (id : SessionId) (reason : CloseReason) : Bool × Server :=
  match srv.session? id with
  | none => (false, srv)
  | some s =>
    let (closed, roster) := srv.roster.close id reason
    let srv := { srv with roster }
    if closed && s.isManaged then (true, srv.reportClosed id s.transport.kind reason)
    else (closed, srv)

/-- Close sessions one after the other, with the number of those this closed. -/
def closeEach (srv : Server) (reason : CloseReason) (ids : List SessionId) : Nat × Server :=
  ids.foldl (fun (count, srv) id =>
    let (closed, srv) := srv.close id reason
    (count + closed.toNat, srv)) (0, srv)

def closeAll (srv : Server) (reason : CloseReason) : Nat × Server :=
  srv.closeEach reason (srv.roster.registeredWhere fun _ => true)

end Server

end SessionNet
