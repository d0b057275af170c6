import SessionNet.Cipher.Key
import SessionNet.Codec
import SessionNet.Settings.Files
import SessionNet.Transport.Address

/-!
# Validation of settings

Settings that can be read can still make no sense. Each section lists its faults in a fixed order,
and settings are accepted if there are none.
-/

namespace SessionNet

/-- A setting that makes no sense. -/
inductive SettingFault where
  | emptyAddress
  | badAddress (text : String)
  | badUdpAddress (text : String)
  /-- Something of which there must be at least one. -/
  | zero (what : String)
  | tooManyWorkers (what : String) (count : Nat)
  | longRequestQueue (size : Nat)
  /-- A duration below 100 milliseconds. -/
  | tooShort (what : String)
  | longShutdown
  | smallBuffer (what : String) (size : Nat)
  | largeBuffer (what : String) (size : Nat)
  | smallReaderBuffer (size : Nat)
  | badThreshold (bits : UInt32)
  | badFrameLimit (limit : Nat)
  | highCompressionThreshold
  | badKey (error : NetError)
  | emptyName
  | longName (length : Nat)
  | noLogDirectory (path : String)
  | noLogPath
  | noLogOutput
  deriving DecidableEq, Repr

/-- The most workers of a kind. -/
def maxWorkers : Nat := 1024

def SettingFault.message : SettingFault → String
  | .emptyAddress => "Server address cannot be empty"
  | .badAddress text =>
    "Invalid server address format: '" ++ text ++ "' (expected format: '0.0.0.0:8080')"
  | .badUdpAddress text => "Invalid UDP address format: '" ++ text ++ "'"
  | .zero what => what ++ " must be greater than 0"
  | .tooManyWorkers what count =>
    what ++ " too large: " ++ Number.natText count ++ " (maximum: " ++ Number.natText maxWorkers
      ++ ")"
  | .longRequestQueue size =>
    "Max request queue size too large: " ++ Number.natText size ++ " (max recommended: 1,000,000)"
  | .tooShort what => what ++ " too short (minimum: 100ms)"
  | .longShutdown => "Shutdown timeout too long (maximum: 60s)"
  | .smallBuffer what size =>
    what ++ " too small: " ++ Number.natText size ++ " (minimum: 1 KB)"
  | .largeBuffer what size =>
    what ++ " too large: " ++ Number.natText size ++ " (maximum: 64 MB)"
  | .smallReaderBuffer size =>
    "Reader buffer size too small: " ++ Number.natText size ++ " (minimum: 512 bytes)"
  | .badThreshold bits =>
    "Queue shed threshold out of range: " ++ thresholdStyle.write .single bits.toNat
      ++ " (valid range: (0, 100])"
  | .badFrameLimit limit =>
    "Invalid frame limit: " ++ Number.natText limit ++ " (valid range: 1-"
      ++ Number.natText maxFrameLimit ++ ")"
  | .highCompressionThreshold => "Compression threshold cannot be larger than max message size"
  | .badKey error => error.message
  | .emptyName => "Application name cannot be empty"
  | .longName length =>
    "Application name too long: " ++ Number.natText length ++ " characters (maximum: 64)"
  | .noLogDirectory path => "Log file directory does not exist: " ++ path
  | .noLogPath => "log_file_path must be specified when log_to_file is true"
  | .noLogOutput => "At least one logging output (console or file) must be enabled"
where
  /-- A threshold is shown without an exponent and without needless places. -/
  thresholdStyle : Number.FloatStyle := ⟨.toEven, 0, none, "NaN", "inf"⟩

/-- A fault if something holds. -/
def SettingFault.when (condition : Bool) (fault : SettingFault) : List SettingFault :=
  if condition then [fault] else []

open SettingFault (when)

def workerFaults (what : String) (count : Nat) : List SettingFault :=
  if count = 0 then [.zero what]
  else when (maxWorkers < count) (.tooManyWorkers what count)

/-- Faults of a number of workers that need not be set. -/
def optionalWorkerFaults (what : String) (count? : Option Nat) : List SettingFault :=
  count?.elim [] (workerFaults what)

def ServerSettings.faults (s : ServerSettings) : List SettingFault :=
  (if s.address.isEmpty then [.emptyAddress]
    else when (SocketAddress.ofText? s.address).isNone (.badAddress s.address))
  ++ s.udpAddress?.elim [] (fun address =>
    when (SocketAddress.ofText? address).isNone (.badUdpAddress address)
      ++ workerFaults "UDP workers" s.udpWorkers)
  ++ optionalWorkerFaults "Reader workers" s.readerWorkers?
  ++ optionalWorkerFaults "Writer workers" s.writerWorkers?
  ++ optionalWorkerFaults "Dispatcher workers" s.dispatcherWorkers?
  ++ (if s.requestQueueSize = 0 then [.zero "Max request queue size"]
    else when (1000000 < s.requestQueueSize) (.longRequestQueue s.requestQueueSize))
  ++ when (s.maxIdle < 100) (.tooShort "Max idle time")
  ++ when (s.orphanAllowance < 100) (.tooShort "Orphan allowance")
  ++ (if s.shutdownTimeout < 100 then [.tooShort "Shutdown timeout"]
    else when (60 < s.shutdownTimeout / 1000) .longShutdown)

/-- Faults of the size of a socket's buffer. -/
def bufferFaults (what : String) (size : Nat) : List SettingFault :=
  if size < 1024 then [.smallBuffer what size]
  else when (64 * 1024 * 1024 < size) (.largeBuffer what size)

def SocketSettings.faults (s : SocketSettings) : List SettingFault :=
  bufferFaults "Receive buffer size" s.receiveBuffer
  ++ bufferFaults "Send buffer size" s.sendBuffer
  ++ when (s.readerBuffer < 512) (.smallReaderBuffer s.readerBuffer)
  ++ when (s.backlog == 0) (.zero "Listen backlog")

/-- Whether a threshold is above 0 and at most 100. -/
def isThreshold (bits : UInt32) : Bool :=
  let single := Number.Floating.single
  single.lt 0 bits.toNat && single.le bits.toNat hundred.toNat

namespace TransportSettings

/-- The collaborator that encrypts, if a key is set. -/
def encryptor? (s : TransportSettings) : Except Abort (Option Encryptor) :=
  match s.encryptionKey? with
  | none => .ok none
  | some text => (Cipher.SecretKey.ofHex text).map fun key => some (Cipher.XChaCha.encryptor key)

/-- Faults of the key; a text that brings down the reading of keys brings this down too. -/
def keyFaults (s : TransportSettings) : Except Abort (List SettingFault) :=
  match s.encryptor? with
  | .ok _ => .ok []
  | .error (.failed error) => .ok [.badKey error]
  | .error .crashed => .error .crashed

def faults (s : TransportSettings) : Except Abort (List SettingFault) :=
  s.keyFaults.map fun keyFaults =>
    when (s.queueCapacity == 0) (.zero "Max packet queue size")
    ++ when (!isThreshold s.shedThreshold) (.badThreshold s.shedThreshold)
    ++ when (s.frameLimit == 0 || maxFrameLimit < s.frameLimit) (.badFrameLimit s.frameLimit)
    ++ when (s.compression?.isSome && maxMessageSize < s.compressionThreshold)
      .highCompressionThreshold
    ++ keyFaults
    ++ when (s.fairnessBudget == 0) (.zero "Writer fairness budget")
    ++ when (s.tunnelEnabled && s.tunnelInterval == 0) (.zero "Tunnel update interval")

/-- The codec that the settings describe; the threshold counts only where there is compression. -/
def codec (s : TransportSettings) : Except Abort CodecConfig :=
  s.encryptor?.map fun encryptor? =>
    { format := s.format
      frameLimit := s.frameLimit
      compressionThreshold := if s.compression?.isSome then s.compressionThreshold else 512
      compressor? := s.compression?.map CompressionKind.compressor
      encryptor? }

end TransportSettings

def LogSettings.faults (s : LogSettings) (view : FileView) : List SettingFault :=
  (if s.appName.isEmpty then [.emptyName]
    else when (64 < s.appName.utf8ByteSize) (.longName s.appName.utf8ByteSize))
  ++ (if s.toFile then
      match s.filePath? with
      | none => [.noLogPath]
      | some path =>
        (Path.parent? path).elim [] fun parent =>
          when (!parent.isEmpty && !view.isDirectory parent) (.noLogDirectory parent)
    else [])
  ++ when (!s.toConsole && !s.toFile) .noLogOutput

namespace Settings

/-- All faults, section by section. -/
def faults (s : Settings) (view : FileView) : Except Abort (List SettingFault) :=
  s.transport.faults.map fun transportFaults =>
    s.server.faults ++ s.socket.faults ++ transportFaults ++ s.logging.faults view

/-- Accept settings without faults. -/
def validate (s : Settings) (view : FileView) : Except Abort Unit :=
  match s.faults view with
  | .error abort => .error abort
  | .ok [] => .ok ()
  | .ok faults =>
    .error (.failed (.configuration ("Configuration validation failed:\n  - "
      ++ "\n  - ".intercalate (faults.map SettingFault.message))))

end Settings

end SessionNet
