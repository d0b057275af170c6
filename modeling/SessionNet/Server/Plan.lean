import SessionNet.Server.Basic
import SessionNet.Settings.Validation

/-!
# Making a server

A server is made from a plan, and a plan from valid settings. Nothing runs until it is started.
-/

namespace SessionNet

/-- What a server is made from. -/
structure ServerPlan where
  sessions : SessionSettings := {}
  /-- The most connections of an address; zero is no limit. -/
  maxPerAddress : Nat := 0
  codec : CodecConfig := {}
  shards : Nat := 1
  /-- The most bounded requests of a shard. -/
  requestQueueSize : Nat := 64
  writers : Nat := 1
  /-- Packets that a writer serves in a row. -/
  budget : Nat := 32
  reconnection : Bool := true

/-- Senders are spread over the shards by their numbers. -/
def RequestSender.number : RequestSender → Nat
  | .session id => id
  | .peer asker => asker.client

/-- A server that is not started. -/
def Server.create (plan : ServerPlan) : Server where
  roster := { settings := plan.sessions, filter := { maxPerAddress := plan.maxPerAddress } }
  dispatcher := Dispatcher.create plan.shards plan.requestQueueSize RequestSender.number
  writers := Writers.create plan.writers plan.budget
  supply := { codec := plan.codec }
  reconnection := plan.reconnection

/-- What new sessions are created with under settings. -/
def Settings.sessions (s : Settings) : SessionSettings where
  queueCapacity := s.transport.queueCapacity
  queuePolicy := QueuePolicy.shedding s.transport.shedThreshold
  maxIdle := s.server.maxIdle * microsPerMilli
  orphanAllowance := s.server.orphanAllowance * microsPerMilli
  tunnelEnabled := s.transport.tunnelEnabled
  maxIdentities := s.server.maxIdentities

/-- The plan that settings describe, on a machine with so many processors. -/
def Settings.plan (s : Settings) (processors : Nat) : Except Abort ServerPlan :=
  s.transport.codec.map fun codec =>
    { sessions := s.sessions
      maxPerAddress := s.server.connectionsPerAddress
      codec
      shards := s.server.dispatcherWorkers?.getD (workersFor processors)
      requestQueueSize := s.server.requestQueueSize
      writers := s.server.writerWorkers?.getD (workersFor processors)
      budget := s.transport.fairnessBudget
      reconnection := s.server.reconnection }

/-- Make a server from settings, which must be valid. -/
def Server.ofSettings (s : Settings) (view : FileView) (processors : Nat) : Except Abort Server :=
  match s.validate view with
  | .error abort => .error abort
  | .ok () => (s.plan processors).map Server.create

end SessionNet
