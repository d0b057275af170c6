import SessionNet.Error
import SessionNet.Settings.Numeral
import SessionNet.Text.Blank

/-!
# Settings from the environment

Variables override the defaults, in a fixed order; the first that cannot be read is reported.
Numbers and truth values may stand between blanks, other values are taken as they are.
-/

namespace SessionNet

/-- Variables with their values. -/
abbrev Environment := List (String × String)

namespace Settings

/-- What the names of all variables begin with. -/
def variableStart : String := "ARENA_NET_"

/-- A variable, and what its value does to the settings; nothing if the value cannot be read. -/
structure Variable where
  name : String
  apply : String → Settings → Except NetError Settings

def Variable.text (name : String) (put : String → ServerSettings → ServerSettings) : Variable :=
  ⟨name, fun value s => .ok { s with server := put value s.server }⟩

/-- A variable that is read once the blanks around it are cut off. -/
def Variable.parsed {α : Type} (name : String) (parse? : String → Option α)
    (put : α → Settings → Settings) : Variable :=
  ⟨name, fun value s =>
    match parse? (Text.trim value) with
    | some a => .ok (put a s)
    | none =>
      .error (.configuration ("Invalid value for " ++ variableStart ++ name ++ ": " ++ value))⟩

def readFlag? (text : String) : Option Bool :=
  if text = "true" then some true else if text = "false" then some false else none

/-- The log level, which is not freed of blanks. -/
def Variable.level : Variable :=
  ⟨"LOG_LEVEL", fun value s =>
    match LogLevel.ofText? value with
    | some level => .ok { s with logging := { s.logging with level } }
    | none => .error (.configuration ("Invalid log level: " ++ value))⟩

/-- The variables in the order in which they are read. -/
def readOrder : List Variable := [
  .text "ADDRESS" fun v s => { s with address := v },
  .text "UDP_ADDRESS" fun v s => { s with udpAddress? := some v },
  .parsed "READER_WORKERS" (readNatural? maxWord) fun v s =>
    { s with server := { s.server with readerWorkers? := some v } },
  .parsed "WRITER_WORKERS" (readNatural? maxWord) fun v s =>
    { s with server := { s.server with writerWorkers? := some v } },
  .parsed "DISPATCHER_WORKERS" (readNatural? maxWord) fun v s =>
    { s with server := { s.server with dispatcherWorkers? := some v } },
  .parsed "MAX_QUEUE_SIZE" (readNatural? maxWord) fun v s =>
    { s with transport := { s.transport with queueCapacity := v } },
  .parsed "MAX_IDLE_MS" (readNatural? maxWord) fun v s =>
    { s with server := { s.server with maxIdle := v } },
  .parsed "TUNNEL_ENABLED" readFlag? fun v s =>
    { s with transport := { s.transport with tunnelEnabled := v } },
  .level]

/-- The defaults, overridden by the variables that are set. -/
def ofEnvironment (environment : Environment) : Except NetError Settings :=
  readOrder.foldlM (fun s v =>
    match environment.lookup (variableStart ++ v.name) with
    | some value => v.apply value s
    | none => .ok s) {}

end Settings

end SessionNet
