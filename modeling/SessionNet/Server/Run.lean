import SessionNet.Server.Admission
import SessionNet.Server.Process

/-!
# Running a server

The stages of a server start together, once, and stop together. When a server shuts down it closes
every session, the readers and writers stop, and the shards process what is left, so that the end of
every session is reported; after that nothing is accepted.
-/

namespace SessionNet.Server

/-! ## Work -/

/-- Let the running shards, and then the running writers, work until neither has anything left. -/
def settleRounds : (rounds : Nat) → Server → Server
  | 0, srv => srv
  | rounds + 1, srv =>
    let srv := if srv.dispatcher.phase = .running then srv.drainShards srv.shardWork else srv
    let srv := if srv.writers.phase = .running then srv.drainWriters srv.writerWork else srv
    let hasRequests := srv.dispatcher.phase = .running && srv.dispatcher.busyShard?.isSome
    if hasRequests then settleRounds rounds srv else srv

/-- Let the running stages work until nothing is left. The readers fetch what arrived through
tunnels; after that every round of the other stages but the last closes a session. -/
def settle (srv : Server) : Server :=
  let srv := if srv.readers.phase = .running then srv.pollTunnels else srv
  settleRounds (srv.roster.sessions.length + 2) srv

/-! ## Single stages -/

/-- Start the writers, once. -/
def startWriters (srv : Server) : Server :=
  if srv.writers.phase = .idle then
    { srv with writers := { srv.writers with phase := .running } }
  else srv

/-- Stop the writers; sessions left on their run queues are no longer served. -/
def stopWriters (srv : Server) : Server :=
  if srv.writers.phase = .running then
    { srv with writers := { srv.writers with phase := .stopped } }
  else srv

/-- Start the shards, once. -/
def startDispatcher (srv : Server) : Server := { srv with dispatcher := srv.dispatcher.start }

/--
Stop the dispatcher: it accepts nothing more. Shards that run process what they have; requests on
shards that were never started are dropped.
-/
def stopDispatcher (srv : Server) : Server :=
  let phase := srv.dispatcher.phase
  let srv := { srv with dispatcher := { srv.dispatcher with phase := .stopped } }
  if phase = .running then srv.drainShards srv.shardWork
  else { srv with dispatcher := srv.dispatcher.discard }

/-! ## Life of a server -/

/-- Whether the server was started and not shut down. -/
def isRunning (srv : Server) : Bool := srv.lifecycle.isStarted && !srv.lifecycle.isShutDown

def start (srv : Server) : Except NetError Server :=
  if srv.lifecycle.isShutDown then .error (.shutdown .server)
  else if srv.lifecycle.isStarted then .error (.illegalState .serverStarted)
  else
    .ok { srv.startDispatcher.startWriters with
      readers := { srv.readers with phase := .running }
      lifecycle := { srv.lifecycle with isStarted := true } }

/-- Close every session, report that, and stop all stages; a second time this does nothing. -/
def shutdown (srv : Server) : Server :=
  if srv.lifecycle.isShutDown then srv
  else
    let srv := { srv with lifecycle := ⟨false, true⟩ }
    let srv := (srv.closeAll .shutdown).2
    let readers :=
      if srv.readers.phase = .running then { srv.readers with phase := StagePhase.stopped }
      else srv.readers
    { srv with readers }.stopWriters.stopDispatcher

end SessionNet.Server
