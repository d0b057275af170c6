import SessionNet.Number.Text

/-!
# Failures

Everything that can go wrong, as causes, with the wording of each in one place. Two classes matter
to callers: a protocol violation must close the session it happened on, a capacity rejection may be
retried or shed.
-/

namespace SessionNet

/-- Frames that do not fit together. -/
inductive FramingFault where
  | unexpectedContinuation
  | nestedHead
  | assemblyOverflow
  | unknownMarker (marker : UInt8)
  | missingMarker
  | bigSizedDatagram
  | shortDatagram
  | interleavedFrame
  | incompleteFrame
  | described (text : String)
  deriving DecidableEq, Repr

/-- Operations that the current state does not admit. -/
inductive StateFault where
  | transportAttached
  | notStreamSession
  | tunnelDisabled
  | sessionInactive
  | serverStarted
  | described (text : String)
  deriving DecidableEq, Repr

/-- Arguments that an operation does not accept. -/
inductive ArgumentFault where
  | zeroConveyance
  | detachedSocket
  | unexpectedRequest (request sender : String)
  | described (text : String)
  deriving DecidableEq, Repr

/-- A part of the server that no longer takes work. -/
inductive Stage where
  | dispatcher
  | reader
  | server
  deriving DecidableEq, Repr

/-- A failed operation. -/
inductive NetError where
  | io (detail : String)
  | serialize (detail : String)
  | deserialize (detail : String)
  | invalidHeader (byte : UInt8)
  | framing (fault : FramingFault)
  | lengthMismatch (declared actual : Nat)
  | oversizedPacket (size : Nat)
  | compression
  | decompression
  | encryption
  | decryption
  | queueFull
  | policyViolation (packet : Nat) (usage : UInt32)
  | requestQueueFull (shard : Nat)
  | illegalState (fault : StateFault)
  | invalidArgument (fault : ArgumentFault)
  | connectionRefused (address : String)
  | connectionClosed
  | shutdown (stage : Stage)
  | timeout
  | configuration (detail : String)
  deriving DecidableEq, Repr

/-! ## Wording -/

def NetError.kind : NetError → String
  | .io _ => "Io"
  | .serialize _ => "SerializeError"
  | .deserialize _ => "DeserializeError"
  | .invalidHeader _ => "InvalidHeader"
  | .framing _ => "Framing"
  | .lengthMismatch .. => "LengthMismatch"
  | .oversizedPacket _ => "OversizedPacket"
  | .compression => "CompressionFailure"
  | .decompression => "DecompressionFailure"
  | .encryption => "EncryptionFailure"
  | .decryption => "DecryptionFailure"
  | .queueFull => "QueueFull"
  | .policyViolation .. => "PolicyViolation"
  | .requestQueueFull _ => "RequestQueueFull"
  | .illegalState _ => "IllegalState"
  | .invalidArgument _ => "InvalidArgument"
  | .connectionRefused _ => "ConnectionRefused"
  | .connectionClosed => "ConnectionClosed"
  | .shutdown _ => "Shutdown"
  | .timeout => "Timeout"
  | .configuration _ => "ConfigError"

def FramingFault.message : FramingFault → String
  | .unexpectedContinuation => "Continuation frame without an assembly in progress"
  | .nestedHead => "Big-sized head frame while an assembly is in progress"
  | .assemblyOverflow => "Fragment assembly exceeds its declared length"
  | .unknownMarker marker =>
    "Unknown fragment marker: 0x" ++ Number.hexPadded 2 marker.toNat
  | .missingMarker => "Big-sized frame without a fragment marker"
  | .bigSizedDatagram => "Big-sized frames are not allowed in datagrams"
  | .shortDatagram => "Datagram shorter than its fixed header"
  | .interleavedFrame => "Regular frame while a fragment assembly is in progress"
  | .incompleteFrame => "Input ended inside a frame"
  | .described text => text

def StateFault.message : StateFault → String
  | .transportAttached => "A transport is already attached to this session"
  | .notStreamSession => "Only TCP sessions accept a secondary transport"
  | .tunnelDisabled => "Reliable tunnel is disabled"
  | .sessionInactive => "Session is not active"
  | .serverStarted => "server already started"
  | .described text => text

def ArgumentFault.message : ArgumentFault → String
  | .zeroConveyance => "Conveyance id 0 is reserved for first contact"
  | .detachedSocket => "Socket is not connected to a peer"
  | .unexpectedRequest request sender => request ++ " request from " ++ sender
  | .described text => text

def Stage.message : Stage → String
  | .dispatcher => "Request dispatcher is stopped"
  | .reader => "Reader stage is stopped"
  | .server => "server already shut down"

/-- The text shown for a failure. -/
def NetError.message : NetError → String
  | .io detail => "I/O error: " ++ detail
  | .serialize detail => "Serialize error: " ++ detail
  | .deserialize detail => "Deserialize error: " ++ detail
  | .invalidHeader byte => "Invalid packet header: 0x" ++ Number.hexPadded 2 byte.toNat
  | .framing fault => "Framing error: " ++ fault.message
  | .lengthMismatch declared actual =>
    "Length mismatch: declared " ++ Number.natText declared ++ " bytes, got "
      ++ Number.natText actual
  | .oversizedPacket size => "Packet too large: " ++ Number.natText size ++ " bytes"
  | .compression => "Compression failed"
  | .decompression => "Decompression failed"
  | .encryption => "Encryption failed"
  | .decryption => "Decryption failed"
  | .queueFull => "Packet queue is full"
  | .policyViolation packet usage =>
    "Queue policy rejected packet " ++ Number.natText packet ++ " at "
      ++ Number.onePlace .single usage.toNat ++ "% usage"
  | .requestQueueFull shard => "Request queue of shard " ++ Number.natText shard ++ " is full"
  | .illegalState fault => "Illegal state: " ++ fault.message
  | .invalidArgument fault => "Invalid argument: " ++ fault.message
  | .connectionRefused address => "Connection refused from " ++ address
  | .connectionClosed => "Connection closed"
  | .shutdown stage => "Stage is shut down: " ++ stage.message
  | .timeout => "Timeout occurred"
  | .configuration detail => "Configuration error: " ++ detail

/-! ## Classes -/

/-- Failures of the peer to follow the protocol; the session must close. -/
def NetError.isPeerFault : NetError → Bool
  | .invalidHeader _ | .framing _ | .lengthMismatch .. | .oversizedPacket _ | .decryption
  | .decompression | .deserialize _ => true
  | _ => false

/-- Rejections for want of room; the caller may retry or shed. -/
def NetError.isOverload : NetError → Bool
  | .queueFull | .policyViolation .. | .requestQueueFull _ => true
  | _ => false

end SessionNet
