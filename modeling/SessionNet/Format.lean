import SessionNet.Error
import SessionNet.Format.Bincode
import SessionNet.Format.Json
import SessionNet.Format.MessagePack
import SessionNet.Text.Keyed

/-!
# Serialization formats

The formats a message can be serialized with. The format is a setting of the server and is not
carried on the wire.
-/

namespace SessionNet

/-- A serialization format. -/
inductive Format where
  | messagePack
  | bincode
  | json
  deriving DecidableEq, Repr

namespace Format

def name : Format → String
  | .messagePack => "MessagePack"
  | .bincode => "Bincode"
  | .json => "JSON"

/-- The name used in configuration files. -/
def key : Format → String
  | .messagePack => "messagepack"
  | .bincode => "bincode"
  | .json => "json"

instance : Keyed Format := ⟨[.messagePack, .bincode, .json], key⟩

end Format

def Message.serialize (m : Message) : Format → Bytes
  | .messagePack => Format.MessagePack.encode m
  | .bincode => Format.Bincode.encode m
  | .json => Format.Json.encode m

/-- The message that bytes stand for in a format. -/
def Message.deserialize (format : Format) (bs : Bytes) : Except NetError Message :=
  let read :=
    match format with
    | .messagePack => Format.MessagePack.decode? bs
    | .bincode => Format.Bincode.decode? bs
    | .json => Format.Json.decode? bs
  match read with
  | some m => .ok m
  | none => .error (.deserialize ("malformed " ++ format.name ++ " message"))

end SessionNet
