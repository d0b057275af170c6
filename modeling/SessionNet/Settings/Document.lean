import SessionNet.Error
import SessionNet.Settings.Section
import SessionNet.Toml.Document

/-!
# Settings files

A settings file is a TOML document with a section for each part of the settings.
-/

namespace SessionNet

/-! ## Sections -/

def ServerSettings.layout : Section ServerSettings where
  name := "server"
  fields := [
    .text "address" (·.address) fun v s => { s with address := v },
    .optionalText "udp_address" (·.udpAddress?) fun v s => { s with udpAddress? := some v },
    .number "udp_workers" maxWord (·.udpWorkers) fun v s => { s with udpWorkers := v },
    .machineNumber "reader_workers" (·.readerWorkers?) fun v s =>
      { s with readerWorkers? := some v },
    .machineNumber "writer_workers" (·.writerWorkers?) fun v s =>
      { s with writerWorkers? := some v },
    .machineNumber "dispatcher_workers" (·.dispatcherWorkers?) fun v s =>
      { s with dispatcherWorkers? := some v },
    .number "max_request_queue_size" maxWord (·.requestQueueSize) fun v s =>
      { s with requestQueueSize := v },
    .number "max_idle" maxWord (·.maxIdle) fun v s => { s with maxIdle := v },
    .number "orphan_allowance" maxWord (·.orphanAllowance) fun v s =>
      { s with orphanAllowance := v },
    .number "max_connections_per_address" maxWord (·.connectionsPerAddress) fun v s =>
      { s with connectionsPerAddress := v },
    .number "max_identities" maxWord (·.maxIdentities) fun v s => { s with maxIdentities := v },
    .flag "reconnection_enabled" (·.reconnection) fun v s => { s with reconnection := v },
    .number "shutdown_timeout" maxWord (·.shutdownTimeout) fun v s =>
      { s with shutdownTimeout := v }]

def SocketSettings.layout : Section SocketSettings where
  name := "socket"
  fields := [
    .number "recv_buffer_size" maxWord (·.receiveBuffer) fun v s => { s with receiveBuffer := v },
    .number "send_buffer_size" maxWord (·.sendBuffer) fun v s => { s with sendBuffer := v },
    .number "reader_buffer_size" maxWord (·.readerBuffer) fun v s => { s with readerBuffer := v },
    .flag "tcp_nodelay" (·.noDelay) fun v s => { s with noDelay := v },
    .number "backlog" (Nat.pow 2 32 - 1) (·.backlog) fun v s => { s with backlog := v }]

def TransportSettings.layout : Section TransportSettings where
  name := "transport"
  fields := [
    .number "max_packet_queue_size" maxWord (·.queueCapacity) fun v s =>
      { s with queueCapacity := v },
    .single "queue_shed_threshold" (·.shedThreshold) fun v s => { s with shedThreshold := v },
    .choice "serialization_format" (·.format) fun v s => { s with format := v },
    .optionalChoice "compression" (·.compression?) fun v s => { s with compression? := some v },
    .number "compression_threshold_bytes" maxWord (·.compressionThreshold) fun v s =>
      { s with compressionThreshold := v },
    .optionalText "encryption_key" (·.encryptionKey?) fun v s =>
      { s with encryptionKey? := some v },
    .number "frame_limit" maxWord (·.frameLimit) fun v s => { s with frameLimit := v },
    .number "writer_fairness_budget" maxWord (·.fairnessBudget) fun v s =>
      { s with fairnessBudget := v },
    .flag "tunnel_enabled" (·.tunnelEnabled) fun v s => { s with tunnelEnabled := v },
    .number "tunnel_update_interval" maxWord (·.tunnelInterval) fun v s =>
      { s with tunnelInterval := v }]

/-- The options of the section on logging. -/
def LogSettings.layout : Section LogSettings where
  name := "logging"
  fields := [
    .text "app_name" (·.appName) fun v s => { s with appName := v },
    .textual "log_level" LogLevel.ofText? (fun s => some s.level.key) fun v s =>
      { s with level := v },
    .flag "log_to_console" (·.toConsole) fun v s => { s with toConsole := v },
    .flag "log_to_file" (·.toFile) fun v s => { s with toFile := v },
    .optionalText "log_file_path" (·.filePath?) fun v s => { s with filePath? := some v },
    .flag "json_format" (·.asJson) fun v s => { s with asJson := v }]

/-! ## Whole files -/

namespace Settings

/-- The settings that the entries of a document give, over the defaults. -/
def ofEntries? (entries : List (String × Toml.Value)) : Option Settings := do
  let server ← ServerSettings.layout.readFrom entries {}
  let socket ← SocketSettings.layout.readFrom entries {}
  let transport ← TransportSettings.layout.readFrom entries {}
  let logging ← LogSettings.layout.readFrom entries {}
  some { server, socket, transport, logging }

/-- Read a settings file. -/
def ofText (text : String) : Except NetError Settings :=
  match (Toml.read? text).bind ofEntries? with
  | some s => .ok s
  | none => .error (.configuration "Failed to parse TOML")

/-- The settings file; `machine` is the text for a number of workers that is not set. -/
def text (s : Settings) (machine : String) : String :=
  "\n".intercalate [ServerSettings.layout.text machine s.server,
    SocketSettings.layout.text machine s.socket,
    TransportSettings.layout.text machine s.transport,
    LogSettings.layout.text machine s.logging]

end Settings

end SessionNet
