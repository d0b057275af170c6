import SessionNet.Server.Basic

/-!
# Outbound messages

Packets are queued on their sessions, and the sessions on the run queues of the writers. A session
is on a run queue at most once, and from then until its pass is over nobody else writes for it. A
session whose write fails is closed.
-/

namespace SessionNet.Server

/-! ## Scheduling -/

/-- Put a session on its writer's run queue unless it is already there or being written. -/
def schedule (srv : Server) (id : SessionId) : Server :=
  if (srv.session? id).any (·.writeScheduled) then srv
  else if srv.writers.phase = .stopped then srv
  else
    let worker := id % srv.writers.queues.length
    let queues := srv.writers.queues.modify worker (· ++ [id])
    { srv.update id fun s => { s with writeScheduled := true } with
      writers := { srv.writers with queues } }

/-- Make a packet with the next id. -/
def createPacket (srv : Server) (payload : Bytes) : Packet × Server :=
  (⟨srv.nextPacket, payload, .normal, .tcp, false, none⟩,
    { srv with nextPacket := srv.nextPacket + 1 })

/-- Queue a packet on a session, and nothing else. -/
def enqueue (srv : Server) (id : SessionId) (packet : Packet) : Server × Except NetError Unit :=
  match srv.session? id with
  | none => (srv, .error (.illegalState .sessionInactive))
  | some s =>
    let (s, result) := s.enqueue packet
    (srv.update id fun _ => s, result)

/-- Queue a packet on a session and schedule the session. -/
def enqueueAndSchedule (srv : Server) (id : SessionId) (packet : Packet) :
    Server × Except NetError Unit :=
  match srv.enqueue id packet with
  | (srv, .ok ()) => (srv.schedule id, .ok ())
  | refused => refused

/-- Queue a copy of a packet on every recipient; the first refusal is reported. -/
def multicast (srv : Server) (recipients : List SessionId) (packet : Packet) :
    Server × Except NetError Unit :=
  recipients.foldl (fun (srv, result) id =>
    let (srv, accepted) := srv.enqueueAndSchedule id packet
    match result with
    | .ok () => (srv, accepted)
    | .error e => (srv, .error e)) (srv, .ok ())

/-- Queue a packet on a session, or on its recipients if it has any list of them. -/
def sendPacket (srv : Server) (id : SessionId) (packet : Packet) : Server × Except NetError Unit :=
  match packet.recipients? with
  | some recipients => srv.multicast recipients { packet with recipients? := none }
  | none => srv.enqueueAndSchedule id packet

/-- Send a message over the primary transport of a session. -/
def send (srv : Server) (id : SessionId) (message : Message) : Server × Except NetError Unit :=
  let (packet, srv) := srv.createPacket (message.serialize srv.supply.codec.format)
  srv.sendPacket id packet

/-- Send a message over the datagram path or tunnel of a session. -/
def sendDatagram (srv : Server) (id : SessionId) (message : Message) :
    Server × Except NetError Unit :=
  let (packet, srv) := srv.createPacket (message.serialize srv.supply.codec.format)
  srv.sendPacket id { packet with transport := .udp }

/-! ## Writing -/

/-- Run one pass for a session that the caller has claimed. -/
def runPass (srv : Server) (id : SessionId) : Server :=
  match srv.session? id with
  | none => srv
  | some s =>
    if !s.isActive then srv.update id fun s => { s with writeScheduled := false }
    else
      let ⟨s, supply, result⟩ := s.writePass srv.writers.budget srv.supply
      let srv :=
        { srv.update id fun _ => { s with writeScheduled := false } with supply }
      match result with
      -- the slot on the run queue is free again before the result counts
      | .ok .drained => if s.queue.isEmpty then srv else srv.schedule id
      | .ok .yielded => srv.schedule id
      | .ok .blocked => srv.update id fun s => { s with awaitsWritable := true }
      | .error _ => (srv.close id .writeError).2

/-- Let a writer serve the first session on its run queue. -/
def writerStep (srv : Server) (worker : Nat) : Server :=
  match srv.writers.queues[worker]? with
  | some (id :: rest) =>
    { srv with writers := { srv.writers with queues := srv.writers.queues.set worker rest } }
      |>.runPass id
  | _ => srv

/-- The stream of a session takes bytes again; its reader resumes the writing if asked to. -/
def streamWritable (srv : Server) (id : SessionId) : Server :=
  match srv.session? id with
  | none => srv
  | some s =>
    if s.isActive && s.awaitsWritable && s.pending?.isSome then
      let srv := srv.update id fun s => { s with awaitsWritable := false }
      if s.writeScheduled then srv
      else (srv.update id fun s => { s with writeScheduled := true }).runPass id
    else srv

/-- The first writer with a session on its run queue. -/
def busyWriter? (srv : Server) : Option Nat :=
  srv.writers.queues.findIdx? fun queue => !queue.isEmpty

/-- Let the writers work until no session waits, at most `steps` passes. -/
def drainWriters : (steps : Nat) → Server → Server
  | 0, srv => srv
  | steps + 1, srv =>
    match srv.busyWriter? with
    | none => srv
    | some worker => drainWriters steps (srv.writerStep worker)

/-- A bound on the passes until no session waits: every pass serves a packet or ends a wait. -/
def writerWork (srv : Server) : Nat :=
  srv.writers.waiting + (srv.roster.sessions.map fun s => s.queue.length).foldr (· + ·) 0

end SessionNet.Server
