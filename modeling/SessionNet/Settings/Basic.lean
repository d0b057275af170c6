import SessionNet.Compression
import SessionNet.Format
import SessionNet.PacketQueue

/-!
# Settings

Everything about a server that can be set, in four sections, with the defaults. Durations are in
milliseconds. A number of workers that is not set depends on the machine.
-/

namespace SessionNet

/-- How much is logged. -/
inductive LogLevel where
  | error
  | warn
  | info
  | debug
  | trace
  deriving DecidableEq, Repr

namespace LogLevel

/-- The name used in data and as a filter. -/
def key : LogLevel → String
  | .error => "error"
  | .warn => "warn"
  | .info => "info"
  | .debug => "debug"
  | .trace => "trace"

def name : LogLevel → String
  | .error => "ERROR"
  | .warn => "WARN"
  | .info => "INFO"
  | .debug => "DEBUG"
  | .trace => "TRACE"

def number : LogLevel → Nat
  | .error => 1
  | .warn => 2
  | .info => 3
  | .debug => 4
  | .trace => 5

instance : Keyed LogLevel := ⟨[.error, .warn, .info, .debug, .trace], key⟩

end LogLevel

/-- Listeners, workers and rules for sessions. -/
structure ServerSettings where
  address : String := "127.0.0.1:9000"
  /-- Where datagrams are received; nowhere if not set. -/
  udpAddress? : Option String := none
  udpWorkers : Nat := 1
  readerWorkers? : Option Nat := none
  writerWorkers? : Option Nat := none
  dispatcherWorkers? : Option Nat := none
  /-- The most bounded requests of one shard. -/
  requestQueueSize : Nat := 1024
  maxIdle : Nat := 180000
  orphanAllowance : Nat := 30000
  /-- Zero is no limit. -/
  connectionsPerAddress : Nat := 64
  /-- Zero is no limit. -/
  maxIdentities : Nat := 10000
  reconnection : Bool := true
  shutdownTimeout : Nat := 10000
  deriving BEq, DecidableEq, Repr

/-- Options of sockets and sizes of buffers. -/
structure SocketSettings where
  receiveBuffer : Nat := 262144
  sendBuffer : Nat := 262144
  readerBuffer : Nat := 65536
  noDelay : Bool := true
  backlog : Nat := 1024
  deriving BEq, DecidableEq, Repr

/-- The codec, the packet queues and the tunnels. -/
structure TransportSettings where
  queueCapacity : Nat := 512
  /-- A single-precision percentage. -/
  shedThreshold : UInt32 := QueuePolicy.defaultThreshold
  format : Format := .messagePack
  compression? : Option CompressionKind := none
  compressionThreshold : Nat := 512
  /-- Hexadecimal digits. -/
  encryptionKey? : Option String := none
  frameLimit : Nat := defaultFrameLimit
  fairnessBudget : Nat := 32
  tunnelEnabled : Bool := false
  tunnelInterval : Nat := 10
  deriving BEq, DecidableEq, Repr

/-- What is logged, and where to. -/
structure LogSettings where
  appName : String := "arena-net"
  level : LogLevel := .info
  toConsole : Bool := true
  toFile : Bool := false
  filePath? : Option String := none
  asJson : Bool := false
  deriving BEq, DecidableEq, Repr

/-- All settings. -/
structure Settings where
  server : ServerSettings := {}
  socket : SocketSettings := {}
  transport : TransportSettings := {}
  logging : LogSettings := {}
  deriving BEq, DecidableEq, Repr

/-- The number of workers that suits a machine with so many processors. -/
def workersFor (processors : Nat) : Nat := min processors 16

/-- The same settings with all numbers of workers set. -/
def Settings.settled (s : Settings) (processors : Nat) : Settings :=
  let workers (count? : Option Nat) : Option Nat := some (count?.getD (workersFor processors))
  { s with server := { s.server with
      readerWorkers? := workers s.server.readerWorkers?
      writerWorkers? := workers s.server.writerWorkers?
      dispatcherWorkers? := workers s.server.dispatcherWorkers? } }

end SessionNet
